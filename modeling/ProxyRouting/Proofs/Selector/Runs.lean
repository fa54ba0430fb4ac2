import ProxyRouting.Proofs.Affinity.Lookup
import ProxyRouting.Proofs.Selector.Choice

/-!
# Runs of a selector

A selector is reloaded, asked for proxies, and told to forget, in any order. After any such run
it is `Sound`: what it remembers are proxies of the registry in force, and without a registry it
remembers nothing. Each operation keeps this, so it holds in every state that a run reaches
(`sound_of_reachable`).
-/

namespace ProxyRouting.Selector

open Affinity (Cache)

/-! ### Operations and runs -/

/-- What a selector is asked to do. -/
inductive Operation where
  /-- To put the registry of some proxies in force, with its source, or none. -/
  | reload (configured : Option (List Proxy × Bytes))
  /-- To give the proxy for a flow in a scope. -/
  | select (flow : Flow) (scope : Scope)
  /-- To forget the choice for a flow in a scope. -/
  | forget (flow : Flow) (scope : Scope)
  /-- To forget all choices for a client. -/
  | forgetClient (client : Bytes)
  deriving DecidableEq, Repr

/-- The selector after an operation. -/
def perform (s : Selector) : Operation → Selector
  | .reload configured =>
    s.reload (configured.map fun (proxies, source) => (Registry.build proxies source).1)
  | .select flow scope => (s.select flow scope).2
  | .forget flow scope => (s.forget flow scope).2
  | .forgetClient client => (s.forgetClient client).2

/-- The selector after some operations. -/
def run (s : Selector) (operations : List Operation) : Selector := operations.foldl perform s

/-- The selector is a fresh one after some operations. -/
def Reachable (s : Selector) : Prop :=
  ∃ seed operations, s = (ofSeed seed).run operations

/-! ### What is remembered belongs to the registry -/

/-- The registry in force is well formed, and only its proxies are remembered. -/
structure Sound (s : Selector) : Prop where
  /-- Names tell the proxies of the registry apart. -/
  wellFormed : ∀ registry, s.registry = some registry → registry.WellFormed
  /-- What is remembered is found in the registry. -/
  remembered : ∀ identity proxy, s.affinity.find? identity = some proxy →
    ∃ registry, s.registry = some registry ∧ registry.find? proxy.name = some proxy

variable {s : Selector} {registry : Registry} {flow : Flow} {scope : Scope} {proxy : Proxy}

theorem sound_ofSeed (seed : UInt64) : (ofSeed seed).Sound := by
  refine ⟨fun registry loaded => (by cases loaded), fun identity proxy found => ?_⟩
  rw [ofSeed, Cache.find?_empty] at found
  cases found

theorem sound_reload {next : Option Registry}
    (built : ∀ registry, next = some registry → registry.WellFormed) : (s.reload next).Sound := by
  refine ⟨built, fun identity proxy found => ?_⟩
  rw [Selector.reload, Cache.find?_clear] at found
  cases found

/-- Whatever remembers no more than a sound selector is sound. -/
theorem Sound.of_remembers_less {t : Selector} (sound : s.Sound) (same : t.registry = s.registry)
    (less : ∀ identity proxy, t.affinity.find? identity = some proxy →
      s.affinity.find? identity = some proxy) : t.Sound := by
  refine ⟨fun registry loaded => sound.wellFormed registry (same ▸ loaded), ?_⟩
  intro identity proxy found
  rw [same]
  exact sound.remembered identity proxy (less identity proxy found)

/-! ### The ways a selection goes -/

theorem remembered?_eq_some_iff {identity : Identity} :
    s.remembered? registry flow identity = some proxy ↔
      s.affinity.find? identity = some proxy ∧ registry.find? proxy.name = some proxy ∧
        proxy.accepts flow = true := by
  unfold remembered?
  cases s.affinity.find? identity with
  | none => simp
  | some held =>
    simp only [Option.some.injEq]
    split_ifs with usable
    · constructor
      · rintro ⟨⟩
        exact ⟨rfl, usable⟩
      · rintro ⟨rfl, -⟩
        rfl
    · constructor
      · rintro ⟨⟩
      · rintro ⟨rfl, usable'⟩
        exact absurd usable' usable

/-- The cache after a choice that was not remembered. -/
def settle (cache : Cache) (identity : Identity) : Option Proxy → Cache
  | some proxy => cache.store identity proxy
  | none => cache.erase identity

theorem find?_settle_self (cache : Cache) (identity : Identity) (choice : Option Proxy) :
    (settle cache identity choice).find? identity = choice := by
  cases choice with
  | none => exact cache.find?_erase_self identity
  | some proxy => exact cache.find?_store_self identity proxy

theorem find?_settle_of_ne (cache : Cache) {identity other : Identity} (choice : Option Proxy)
    (ne : other ≠ identity) : (settle cache identity choice).find? other = cache.find? other := by
  cases choice with
  | none => exact cache.find?_erase_of_ne ne
  | some proxy => exact cache.find?_store_of_ne proxy ne

/-- What is remembered and usable is selected, and nothing changes. -/
theorem select_of_remembered (loaded : s.registry = some registry)
    (held : s.remembered? registry flow (flow.identity scope) = some proxy) :
    s.select flow scope = (some proxy, s) := by
  simp only [select, loaded, held]

/-- Where nothing usable is remembered, a proxy is chosen afresh and remembered. -/
theorem select_of_not_remembered (loaded : s.registry = some registry)
    (none : s.remembered? registry flow (flow.identity scope) = none) :
    s.select flow scope =
      ((registry.choose flow s.generator).1,
        { s with
          affinity := settle s.affinity (flow.identity scope)
            (registry.choose flow s.generator).1
          generator := (registry.choose flow s.generator).2 }) := by
  simp only [select, loaded, none]
  cases (registry.choose flow s.generator).1 <;> rfl

/-- A selection gives what is remembered and usable, or else what is chosen afresh. -/
theorem select_cases (loaded : s.registry = some registry) (flow : Flow) (scope : Scope) :
    (∃ proxy, s.select flow scope = (some proxy, s) ∧
        s.affinity.find? (flow.identity scope) = some proxy ∧
        registry.find? proxy.name = some proxy ∧ proxy.accepts flow = true) ∨
      s.remembered? registry flow (flow.identity scope) = none ∧
        s.select flow scope =
          ((registry.choose flow s.generator).1,
            { s with
              affinity := settle s.affinity (flow.identity scope)
                (registry.choose flow s.generator).1
              generator := (registry.choose flow s.generator).2 }) := by
  cases remembered : s.remembered? registry flow (flow.identity scope) with
  | some proxy =>
    have selected := select_of_remembered loaded remembered
    exact Or.inl ⟨proxy, selected, remembered?_eq_some_iff.1 remembered⟩
  | none => exact Or.inr ⟨rfl, select_of_not_remembered loaded remembered⟩

/-- A selection keeps the registry in force. -/
theorem registry_select (s : Selector) (flow : Flow) (scope : Scope) :
    (s.select flow scope).2.registry = s.registry := by
  cases loaded : s.registry with
  | none => simp only [select, loaded]
  | some registry =>
    rcases select_cases loaded flow scope with ⟨held, eq, -⟩ | ⟨-, eq⟩
    · rw [eq, loaded]
    · rw [eq]
      exact loaded

/-! ### Every reachable selector is sound -/

theorem Sound.select (sound : s.Sound) (flow : Flow) (scope : Scope) :
    (s.select flow scope).2.Sound := by
  cases loaded : s.registry with
  | none =>
    simp only [Selector.select, loaded]
    exact sound
  | some registry =>
    rcases select_cases loaded flow scope with ⟨proxy, eq, -⟩ | ⟨-, eq⟩
    · rw [eq]
      exact sound
    · rw [eq]
      refine ⟨sound.wellFormed, fun identity proxy found => ?_⟩
      by_cases same : identity = flow.identity scope
      · -- What is remembered from now on was just chosen.
        simp only [same, find?_settle_self] at found
        exact ⟨registry, loaded,
          (sound.wellFormed registry loaded).find?_name (Registry.mem_members_of_choose found)⟩
      · simp only [find?_settle_of_ne _ _ same] at found
        exact sound.remembered identity proxy found

theorem Sound.perform (sound : s.Sound) (operation : Operation) :
    (s.perform operation).Sound := by
  cases operation with
  | reload configured =>
    refine sound_reload fun registry loaded => ?_
    obtain ⟨⟨proxies, source⟩, -, rfl⟩ := Option.map_eq_some_iff.1 loaded
    exact Registry.wellFormed_build proxies source
  | select flow scope => exact sound.select flow scope
  | forget flow scope =>
    exact sound.of_remembers_less rfl fun _ _ => Cache.find?_of_find?_erase s.affinity
  | forgetClient client =>
    exact sound.of_remembers_less rfl fun _ _ => Cache.find?_of_find?_eraseClient s.affinity

theorem Sound.run (sound : s.Sound) (operations : List Operation) : (s.run operations).Sound := by
  induction operations generalizing s with
  | nil => exact sound
  | cons operation rest ih => exact ih (sound.perform operation)

/-- **What a selector remembers belongs to the registry in force**, after any run. -/
theorem sound_of_reachable (reachable : s.Reachable) : s.Sound := by
  obtain ⟨seed, operations, rfl⟩ := reachable
  exact (sound_ofSeed seed).run operations

end ProxyRouting.Selector
