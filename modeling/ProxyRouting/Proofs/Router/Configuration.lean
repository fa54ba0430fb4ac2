import Mathlib.Data.List.Induction
import ProxyRouting.Proofs.Config.Loading
import ProxyRouting.Proofs.Selector.Runs
import ProxyRouting.Router

/-!
# The configuration of a router

A router is configured and asked in any order. Its configuration is that of the last load which
found one, whether it could be used or not; a load that found none changes nothing
(`registry_run`). Between loads the router only selects and forgets, so its selector is one that
selections and reloads have made (`reachable_run`).
-/

namespace ProxyRouting.Router

open Config (Lookup LoadResult Provides Finds HasEntries IsComplete)

variable {r : Router} {lookup : Lookup} {directory : Bytes}

/-! ### Operations and runs -/

/-- What a router is asked to do. -/
inductive Operation where
  /-- To configure itself from the directory at a path. -/
  | configure (lookup : Lookup) (directory : Bytes)
  /-- To decide on a request. -/
  | request (flow : Flow)
  /-- To decide on a CONNECT. -/
  | tunnelConnect (flow : Flow)
  /-- To decide on a WebSocket that opens. -/
  | webSocketStart (flow : Flow)
  /-- To forget a WebSocket that closes. -/
  | webSocketEnd (flow : Flow)
  /-- To forget a client that leaves. -/
  | clientDisconnected (client : Bytes)

/-- The router after an operation. -/
def perform (r : Router) : Operation → Router
  | .configure lookup directory => (r.configure lookup directory).2.2
  | .request flow => (r.request flow).2.2
  | .tunnelConnect flow => (r.tunnelConnect flow).2.2
  | .webSocketStart flow => (r.webSocketStart flow).2.2
  | .webSocketEnd flow => r.webSocketEnd flow
  | .clientDisconnected client => (r.clientDisconnected client).2

/-- The router after some operations. -/
def run (r : Router) (operations : List Operation) : Router := operations.foldl perform r

/-- What the operation has loaded, if it is a configuration. -/
def Operation.load? : Operation → Option LoadResult
  | .configure lookup directory => some (Config.load lookup directory).1
  | .request _ => none
  | .tunnelConnect _ => none
  | .webSocketStart _ => none
  | .webSocketEnd _ => none
  | .clientDisconnected _ => none

/-- What the operation says about the configuration: what was loaded, unless there was none. -/
def Operation.settles? (operation : Operation) : Option LoadResult :=
  operation.load?.filter (·.status ≠ .noConfig)

/-- What was loaded by the last operation that found a configuration. -/
def settled? (operations : List Operation) : Option LoadResult :=
  (operations.filterMap Operation.settles?).getLast?

theorem run_append (earlier : List Operation) (operation : Operation) :
    r.run (earlier ++ [operation]) = (r.run earlier).perform operation := List.foldl_append

theorem settled?_append (earlier : List Operation) (operation : Operation) :
    settled? (earlier ++ [operation]) = operation.settles?.or (settled? earlier) := by
  rw [settled?, List.filterMap_append]
  cases settles : operation.settles? with
  | none => simp [settled?, settles]
  | some result => simp [settles]

/-! ### Configuring -/

theorem configure_result (r : Router) (lookup : Lookup) (directory : Bytes) :
    (r.configure lookup directory).1 = (Config.load lookup directory).1 := rfl

theorem configure_router (r : Router) (lookup : Lookup) (directory : Bytes) :
    (r.configure lookup directory).2.2 = (r.adopt (Config.load lookup directory).1).1 := rfl

/-- Where there is no configuration, the router stays as it is. -/
theorem adopt_of_noConfig {result : LoadResult} (none : result.status = .noConfig) :
    (r.adopt result).1 = r := by
  cases result with
  | noConfig => rfl
  | failed source error => cases none
  | loaded registry => cases none

/-- Every other load puts its registry in force, or none if it failed, and forgets all choices. -/
theorem adopt_of_ne_noConfig {result : LoadResult} (found : result.status ≠ .noConfig) :
    (r.adopt result).1 = ⟨r.selector.reload result.given?⟩ := by
  cases result with
  | noConfig => exact absurd rfl found
  | failed source error => rfl
  | loaded registry => rfl

/-! ### Asking -/

theorem selector_route (r : Router) (flow : Flow) (scope : Scope) :
    (r.route flow scope).2.2.selector = (r.selector.select flow scope).2 := by
  unfold route
  rcases r.selector.select flow scope with ⟨_ | proxy, selector⟩
  · rfl
  · dsimp only
    cases proxy.decision? <;> rfl

/-- A router that is not loaded decides nothing, and stays as it is. -/
theorem route_of_not_loaded (unloaded : r.selector.loaded = false) (flow : Flow) (scope : Scope) :
    r.route flow scope = (none, [], r) := by
  have none : r.selector.registry = none :=
    Option.isNone_iff_eq_none.1 (Option.isSome_eq_false_iff.1 unloaded)
  simp only [route, Selector.select, none]

theorem registry_route (r : Router) (flow : Flow) (scope : Scope) :
    (r.route flow scope).2.2.selector.registry = r.selector.registry := by
  rw [selector_route, Selector.registry_select]

/-! ### The registry in force -/

/-- An operation changes the registry only if it finds a configuration. -/
theorem registry_perform (r : Router) (operation : Operation) :
    (r.perform operation).selector.registry =
      match operation.settles? with
      | some result => result.given?
      | none => r.selector.registry := by
  cases operation with
  | configure lookup directory =>
    rw [perform, configure_router, Operation.settles?, Operation.load?]
    by_cases found : (Config.load lookup directory).1.status = .noConfig
    · rw [adopt_of_noConfig found, Option.filter_some_neg (by simpa using found)]
    · rw [adopt_of_ne_noConfig found, Option.filter_some_pos (by simpa using found)]
      rfl
  | request flow => exact r.registry_route flow flow.defaultScope
  | tunnelConnect flow => exact r.registry_route flow .tunnel
  | webSocketStart flow => exact r.registry_route flow .tunnel
  | webSocketEnd flow => rfl
  | clientDisconnected client => rfl

/-- **The registry in force is that of the last load which found a configuration.** -/
theorem registry_run (seed : UInt64) (operations : List Operation) :
    ((ofSeed seed).run operations).selector.registry =
      (settled? operations).bind LoadResult.given? := by
  induction operations using List.reverseRecOn with
  | nil => rfl
  | append_singleton operations operation ih =>
    rw [run_append, registry_perform, settled?_append]
    cases operation.settles? with
    | some result => rfl
    | none => exact ih

/-- What a load has settled is what some directory configures, if it is a registry. -/
theorem exists_configure_of_settled? {operations : List Operation} {registry : Registry}
    (settled : settled? operations = some (.loaded registry)) :
    ∃ lookup directory, .configure lookup directory ∈ operations ∧
      Provides lookup directory registry := by
  obtain ⟨operation, mem, settles⟩ := List.mem_filterMap.1 (List.mem_of_getLast? settled)
  have loads := (Option.filter_eq_some_iff.1 settles).1
  cases operation with
  | configure lookup directory =>
    exact ⟨lookup, directory, mem, Config.load_eq_loaded_iff.1 (Option.some.inj loads)⟩
  | _ => cases loads

theorem loaded_run_iff (seed : UInt64) (operations : List Operation) :
    ((ofSeed seed).run operations).selector.loaded = true ↔
      ∃ result, settled? operations = some result ∧ result.status = .loaded := by
  rw [Selector.loaded, registry_run]
  cases settled? operations with
  | none => simp
  | some result => simp [LoadResult.status_eq_loaded_iff]

/-- The registry in force was loaded last, and from a directory that configures it. -/
theorem provides_of_registry_run {seed : UInt64} {operations : List Operation}
    {registry : Registry}
    (loaded : ((ofSeed seed).run operations).selector.registry = some registry) :
    settled? operations = some (.loaded registry) ∧
      ∃ lookup directory, .configure lookup directory ∈ operations ∧
        Provides lookup directory registry := by
  rw [registry_run] at loaded
  obtain ⟨result, settled, gives⟩ := Option.bind_eq_some_iff.1 loaded
  obtain rfl := LoadResult.given?_eq_some_iff.1 gives
  exact ⟨settled, exists_configure_of_settled? settled⟩

/-! ### The selector of a router -/

/-- An operation of a router is one of its selector, or none. -/
theorem exists_selector_operations (r : Router) (operation : Operation) :
    ∃ operations, (r.perform operation).selector = r.selector.run operations := by
  have routes (flow : Flow) (scope : Scope) : (r.route flow scope).2.2.selector =
      r.selector.run [.select flow scope] := r.selector_route flow scope
  cases operation with
  | configure lookup directory =>
    rw [perform, configure_router]
    cases loads : (Config.load lookup directory).1 with
    | noConfig => exact ⟨[], rfl⟩
    | failed source error => exact ⟨[.reload none], rfl⟩
    | loaded registry =>
      obtain @⟨file, d, entries, -, -, -⟩ := Config.load_eq_loaded_iff.1 loads
      exact ⟨[.reload (some (Config.proxiesOf entries, file))], rfl⟩
  | request flow => exact ⟨_, routes flow flow.defaultScope⟩
  | tunnelConnect flow => exact ⟨_, routes flow .tunnel⟩
  | webSocketStart flow => exact ⟨_, routes flow .tunnel⟩
  | webSocketEnd flow => exact ⟨[.forget flow .tunnel], rfl⟩
  | clientDisconnected client => exact ⟨[.forgetClient client], rfl⟩

/-- **The selector of a router is reachable**, whatever the router was asked to do. -/
theorem reachable_run (seed : UInt64) (operations : List Operation) :
    ((ofSeed seed).run operations).selector.Reachable := by
  induction operations using List.reverseRecOn with
  | nil => exact ⟨seed, [], rfl⟩
  | append_singleton operations operation ih =>
    obtain ⟨seed', earlier, reached⟩ := ih
    obtain ⟨later, eq⟩ := exists_selector_operations ((ofSeed seed).run operations) operation
    refine ⟨seed', earlier ++ later, ?_⟩
    rw [run_append, eq, reached]
    exact List.foldl_append.symm

/-- A router that is not loaded remembers nothing. -/
theorem nothing_remembered (seed : UInt64) (operations : List Operation)
    (unloaded : ((ofSeed seed).run operations).selector.loaded = false) (identity : Identity) :
    ((ofSeed seed).run operations).selector.affinity.find? identity = none := by
  have sound := Selector.sound_of_reachable (reachable_run seed operations)
  refine Option.eq_none_iff_forall_ne_some.2 fun proxy found => ?_
  obtain ⟨registry, loaded, -⟩ := sound.remembered identity proxy found
  rw [Selector.loaded, loaded] at unloaded
  cases unloaded

/-! ### Main statement -/

/-- **The configuration of a router**, after any operations on a new one. The router is loaded if
and only if the last load that found a configuration has ended well, and the registry in force is
then the one which the directory of that load configures. To configure it again changes nothing
where there is no configuration; otherwise all choices are forgotten, and the generator goes on.
The load ends well if and only if it gives a registry: one entry that is not complete leaves
nothing of its file. While the router is not loaded, it decides on no flow and remembers nothing. -/
theorem configuration_in_force (seed : UInt64) (operations : List Operation) :
    let r := (ofSeed seed).run operations
    (r.selector.loaded = true ↔
      ∃ result, settled? operations = some result ∧ result.status = .loaded) ∧
    (∀ registry, r.selector.registry = some registry →
      settled? operations = some (.loaded registry) ∧
        ∃ lookup directory, .configure lookup directory ∈ operations ∧
          Provides lookup directory registry) ∧
    (∀ lookup directory,
      let result := (r.configure lookup directory).1
      let next := (r.configure lookup directory).2.2
      (result.status = .noConfig → next = r) ∧
      (result.status ≠ .noConfig →
        next.selector.registry = result.given? ∧ next.selector.affinity.entries = [] ∧
          next.selector.generator = r.selector.generator) ∧
      (result.status = .loaded ↔ result.given?.isSome = true) ∧
      ∀ file d entries entry, Finds lookup directory file d → HasEntries d entries →
        entry ∈ entries → ¬ IsComplete entry →
        result.status = .failed ∧ result.given? = none ∧ next.selector.loaded = false) ∧
    (r.selector.loaded = false →
      (∀ flow, r.request flow = (none, [], r) ∧ r.tunnelConnect flow = (none, [], r) ∧
        r.webSocketStart flow = (none, [], r)) ∧
      ∀ identity, r.selector.affinity.find? identity = none) := by
  intro r
  refine ⟨loaded_run_iff seed operations, fun _ => provides_of_registry_run,
    fun lookup directory => ⟨adopt_of_noConfig, ?_, LoadResult.status_eq_loaded_iff, ?_⟩, ?_⟩
  · intro found
    have reloads := adopt_of_ne_noConfig (r := r) found
    rw [configure_result, ← configure_router] at reloads
    rw [reloads]
    exact ⟨rfl, r.selector.affinity.entries_clear, rfl⟩
  · intro file d entries entry finds has mem incomplete
    obtain ⟨position, loads⟩ := Config.load_of_mem_incomplete finds has mem incomplete
    rw [configure_router, configure_result, loads]
    exact ⟨rfl, rfl, rfl⟩
  · intro unloaded
    exact ⟨fun flow => ⟨route_of_not_loaded unloaded flow _, route_of_not_loaded unloaded flow _,
      route_of_not_loaded unloaded flow _⟩, nothing_remembered seed operations unloaded⟩

end ProxyRouting.Router
