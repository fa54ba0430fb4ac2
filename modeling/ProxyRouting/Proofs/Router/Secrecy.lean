import ProxyRouting.Proofs.Config.Passwords
import ProxyRouting.Proofs.Router.Decisions
import ProxyRouting.Proofs.Selector.Masking

/-!
# Configured passwords stay secret

Two routers start with the same seed and are asked the same, but the configurations that they are
given differ in passwords. Then the same is seen of both: how the loads end, what is logged, which
proxies are selected and where they are, whether credentials are presented to them and how, and how
many choices are remembered and forgotten (`passwords_stay_secret`).

The two are kept apart by nothing but the passwords: at every time they are equal when these are
masked (`Alike`). The mask keeps all that is seen, and every operation keeps the two alike.
-/

namespace ProxyRouting

/-! ### What is seen of a load -/

namespace Config.LoadResult

/-- The file that was loaded or could not be used; empty if there was none. -/
def source : LoadResult → Bytes
  | .noConfig => []
  | .failed source _ => source
  | .loaded registry => registry.source

/-- The text of the cause why the file cannot be used; empty if there is none. -/
def errorText : LoadResult → Bytes
  | .noConfig => []
  | .failed _ error => error.message
  | .loaded _ => []

variable (result : LoadResult)

theorem status_masked : result.masked.status = result.status := by
  cases result <;> rfl

theorem source_masked : result.masked.source = result.source := by
  cases result <;> rfl

theorem errorText_masked : result.masked.errorText = result.errorText := by
  cases result <;> rfl

end Config.LoadResult

/-! ### What is seen of a decision -/

/-- The proxy without its password. -/
def Proxy.withoutPassword (proxy : Proxy) : Proxy := { proxy with password := none }

/-- A decision without the secrets in it. -/
structure Decision.Outline where
  /-- The proxy without its password. -/
  proxy : Proxy
  /-- Where it is. -/
  via : Address
  /-- Whether a `Proxy-Authorization` header is sent. -/
  header : Bool
  /-- Whether there are credentials for the tunnel. -/
  tunnel : Bool
  deriving DecidableEq, Repr

/-- What is seen of a decision. -/
def Decision.outline (d : Decision) : Outline where
  proxy := d.proxy.withoutPassword
  via := d.via
  header := d.authorization?.isSome
  tunnel := d.tunnelCredentials?.isSome

namespace Proxy

/-- In which way something is presented depends on the scheme, and whether on there being
credentials. -/
theorem outline_eq (proxy : Proxy) (via : Address) :
    (⟨proxy, via, proxy.access via⟩ : Decision).outline =
      { proxy := proxy.withoutPassword
        via
        header := proxy.credentials?.isSome && !Scheme.isTunnel via.scheme
        tunnel := proxy.credentials?.isSome && Scheme.isTunnel via.scheme } := by
  simp only [Decision.outline, Decision.authorization?, Decision.tunnelCredentials?, access]
  cases proxy.credentials? with
  | none => rfl
  | some credentials => cases Scheme.isTunnel via.scheme <;> rfl

/-- The mask hides nothing that is seen. -/
theorem outline_masked (proxy : Proxy) :
    proxy.masked.decision?.map Decision.outline = proxy.decision?.map Decision.outline := by
  have address : proxy.masked.address? = proxy.address? := rfl
  unfold decision?
  rw [address]
  cases proxy.address? with
  | none => rfl
  | some via =>
    simp only [Option.map_some, outline_eq, isSome_credentials?_masked]
    rfl

end Proxy

namespace Router

open Config (AlikeLookup maskedLoad)

/-! ### What is seen of a router -/

/-- What an operation answers. -/
inductive Answer where
  /-- How a load has ended. -/
  | configured (status : Config.Status) (source error : Bytes)
  /-- The proxy that is selected for a flow, and the decision. -/
  | decided (selected : Option Proxy) (decision : Option Decision.Outline)
  /-- Nothing is answered. -/
  | closed
  /-- How many choices are forgotten. -/
  | left (count : Nat)
  deriving DecidableEq, Repr

/-- What is seen at a hook: the proxy that is selected, the decision, and what is noticed. -/
def shown (r : Router) (hook : Hook) (flow : Flow) : Answer × List Notice :=
  let selected := (r.selector.select flow (hook.scope flow)).1
  let (decision, notices, _) := r.ask hook flow
  (.decided (selected.map Proxy.withoutPassword) (decision.map Decision.outline), notices)

/-- What an operation answers, and what it notices. -/
def answer (r : Router) : Operation → Answer × List Notice
  | .configure lookup directory =>
    let (result, notices, _) := r.configure lookup directory
    (.configured result.status result.source result.errorText, notices)
  | .request flow => r.shown .request flow
  | .tunnelConnect flow => r.shown .tunnelConnect flow
  | .webSocketStart flow => r.shown .webSocketStart flow
  | .webSocketEnd _ => (.closed, [])
  | .clientDisconnected client => (.left (r.clientDisconnected client).1, [])

/-- What is seen of one operation. -/
structure Seen where
  /-- The answer. -/
  answer : Answer
  /-- What is logged. -/
  log : Bytes
  /-- Whether a configuration is in force afterwards. -/
  loaded : Bool
  /-- How many choices are remembered afterwards. -/
  affinity : Nat
  deriving DecidableEq, Repr

/-- What is seen of an operation. -/
def see (r : Router) (operation : Operation) : Seen where
  answer := (r.answer operation).1
  log := Notice.log (r.answer operation).2
  loaded := (r.perform operation).selector.loaded
  affinity := (r.perform operation).selector.affinity.size

/-- What is seen of some operations, one after another. -/
def observe (r : Router) : List Operation → List Seen
  | [] => []
  | operation :: rest => r.see operation :: (r.perform operation).observe rest

/-! ### Routers that differ in passwords -/

/-- Two operations are equal but for passwords in what there is to load. -/
inductive Operation.Alike : Operation → Operation → Prop
  /-- The same directory is loaded, with alike files. -/
  | configure {lookup lookup' : Config.Lookup} (directory : Bytes) :
      AlikeLookup lookup lookup' →
      Alike (.configure lookup directory) (.configure lookup' directory)
  /-- The operations are the same. -/
  | same (operation : Operation) : Alike operation operation

/-- The router with placeholders for all passwords. -/
def masked (r : Router) : Router := ⟨r.selector.masked⟩

/-- Two routers are equal but for passwords. -/
structure Alike (r r' : Router) : Prop where
  /-- What the one remembers belongs to its registry. -/
  sound : r.selector.Sound
  /-- What the other remembers belongs to its registry. -/
  sound' : r'.selector.Sound
  /-- With masks they are the same. -/
  masked : r.masked = r'.masked

variable {r r' : Router} {operation operation' : Operation}

/-! ### Configuring -/

theorem adopt_masked (r : Router) (result : Config.LoadResult) :
    r.masked.adopt result.masked = ((r.adopt result).1.masked, (r.adopt result).2) := by
  cases result with
  | noConfig => rfl
  | failed source error =>
    have reloaded := r.selector.reload_masked none
    have loaded := r.selector.loaded_masked
    rw [Option.map_none] at reloaded
    simp only [adopt, masked, Config.LoadResult.masked, reloaded, loaded]
  | loaded registry =>
    have reloaded := r.selector.reload_masked (some registry)
    rw [Option.map_some] at reloaded
    simp only [adopt, masked, Config.LoadResult.masked, reloaded]

/-- What a load answers and notices depends on the masked router and on the masked result. -/
theorem answer_configure (r : Router) (lookup : Config.Lookup) (directory : Bytes) :
    r.answer (.configure lookup directory) =
      let (result, loading) := maskedLoad (Config.load lookup directory)
      (.configured result.status result.source result.errorText,
        .loadingDirectory directory :: loading ++ (r.masked.adopt result).2) := by
  simp only [answer, configure, maskedLoad, adopt_masked, Config.LoadResult.status_masked,
    Config.LoadResult.source_masked, Config.LoadResult.errorText_masked]

/-- The router after a load depends on the masked router and on the masked result. -/
theorem masked_configure (r : Router) (lookup : Config.Lookup) (directory : Bytes) :
    (r.perform (.configure lookup directory)).masked =
      (r.masked.adopt (maskedLoad (Config.load lookup directory)).1).1 := by
  simp only [perform, configure, maskedLoad, adopt_masked]

/-! ### Asking and forgetting -/

theorem unroutable_masked (choice : Option Proxy) :
    unroutable (choice.map Proxy.masked) = unroutable choice := by
  cases choice with
  | none => rfl
  | some proxy =>
    have address : proxy.masked.address? = proxy.address? := rfl
    simp only [Option.map_some, unroutable, Proxy.decision?, Option.isNone_map, address,
      Proxy.url_masked, Proxy.name_masked]

/-- The decision for a masked choice looks the same. -/
theorem shown_masked (sound : r.selector.Sound) (hook : Hook) (flow : Flow) :
    r.masked.shown hook flow = r.shown hook flow := by
  have selected := congrArg Prod.fst (r.selector.select_masked sound flow (hook.scope flow))
  unfold shown
  rw [ask_eq, ask_eq]
  simp only [masked, selected, unroutable_masked]
  cases (r.selector.select flow (hook.scope flow)).1 with
  | none => rfl
  | some proxy =>
    simp only [Option.map_some, Option.bind_some, proxy.outline_masked]
    rfl

theorem masked_route (sound : r.selector.Sound) (flow : Flow) (scope : Scope) :
    (r.route flow scope).2.2.masked = (r.masked.route flow scope).2.2 := by
  have selected := congrArg Prod.snd (r.selector.select_masked sound flow scope)
  rw [route_eq, route_eq]
  simp only [masked, selected]

/-- An operation that loads nothing answers the same for the masked router. -/
theorem answer_masked (sound : r.selector.Sound) (quiet : operation.load? = none) :
    r.masked.answer operation = r.answer operation := by
  cases operation with
  | configure lookup directory => cases quiet
  | request flow => exact shown_masked sound .request flow
  | tunnelConnect flow => exact shown_masked sound .tunnelConnect flow
  | webSocketStart flow => exact shown_masked sound .webSocketStart flow
  | webSocketEnd flow => rfl
  | clientDisconnected client =>
    have forgotten := congrArg Prod.fst (r.selector.forgetClient_masked client)
    simp only [answer, clientDisconnected, masked, forgotten]

/-- An operation that loads nothing keeps the mask. -/
theorem masked_perform (sound : r.selector.Sound) (quiet : operation.load? = none) :
    (r.perform operation).masked = r.masked.perform operation := by
  cases operation with
  | configure lookup directory => cases quiet
  | request flow => exact masked_route sound flow _
  | tunnelConnect flow => exact masked_route sound flow _
  | webSocketStart flow => exact masked_route sound flow _
  | webSocketEnd flow =>
    have forgotten := congrArg Prod.snd (r.selector.forget_masked flow .tunnel)
    simp only [perform, webSocketEnd, masked, forgotten]
  | clientDisconnected client =>
    have forgotten := congrArg Prod.snd (r.selector.forgetClient_masked client)
    simp only [perform, clientDisconnected, masked, forgotten]

theorem sound_perform (sound : r.selector.Sound) (operation : Operation) :
    (r.perform operation).selector.Sound := by
  obtain ⟨operations, eq⟩ := r.exists_selector_operations operation
  rw [eq]
  exact sound.run operations

/-! ### Alike routers stay alike -/

/-- Alike operations are equal and load nothing, or load alike files. -/
theorem Operation.Alike.quiet_or_configure (alike : operation.Alike operation') :
    (operation' = operation ∧ operation.load? = none) ∨ ∃ lookup lookup' directory,
      operation = .configure lookup directory ∧ operation' = .configure lookup' directory ∧
        AlikeLookup lookup lookup' := by
  cases alike with
  | configure directory lookups => exact Or.inr ⟨_, _, directory, rfl, rfl, lookups⟩
  | same =>
    cases operation with
    | configure lookup directory => exact Or.inr ⟨_, _, directory, rfl, rfl, .refl lookup⟩
    | _ => exact Or.inl ⟨rfl, rfl⟩

/-- **Alike routers answer the same to alike operations, and stay alike.** -/
theorem Alike.step (alike : r.Alike r') (operations : operation.Alike operation') :
    r.answer operation = r'.answer operation' ∧
      (r.perform operation).Alike (r'.perform operation') := by
  obtain ⟨sound, sound', masked⟩ := alike
  have next : (r.perform operation).masked = (r'.perform operation').masked →
      (r.perform operation).Alike (r'.perform operation') :=
    fun same => ⟨sound_perform sound operation, sound_perform sound' operation', same⟩
  rcases operations.quiet_or_configure with
    ⟨rfl, quiet⟩ | ⟨lookup, lookup', directory, rfl, rfl, lookups⟩
  · refine ⟨?_, next ?_⟩
    · rw [← answer_masked sound quiet, masked, answer_masked sound' quiet]
    · rw [masked_perform sound quiet, masked, masked_perform sound' quiet]
  · have loads := Config.masked_load lookups directory
    refine ⟨?_, next ?_⟩
    · rw [answer_configure, answer_configure, loads, masked]
    · rw [masked_configure, masked_configure, loads, masked]

/-- The same is seen of alike routers. -/
theorem Alike.see_eq (alike : r.Alike r') (operations : operation.Alike operation') :
    r.see operation = r'.see operation' := by
  obtain ⟨answers, next⟩ := alike.step operations
  have selectors := congrArg Router.selector next.masked
  have loaded : (r.perform operation).selector.loaded = (r'.perform operation').selector.loaded :=
    calc (r.perform operation).selector.loaded
        = (r.perform operation).selector.masked.loaded := (Selector.loaded_masked _).symm
      _ = (r'.perform operation').selector.masked.loaded := congrArg Selector.loaded selectors
      _ = (r'.perform operation').selector.loaded := Selector.loaded_masked _
  have size : (r.perform operation).selector.affinity.size =
      (r'.perform operation').selector.affinity.size :=
    calc (r.perform operation).selector.affinity.size
        = (r.perform operation).selector.masked.affinity.size := (Selector.size_masked _).symm
      _ = (r'.perform operation').selector.masked.affinity.size :=
        congrArg (fun s => s.affinity.size) selectors
      _ = (r'.perform operation').selector.affinity.size := Selector.size_masked _
  simp only [see, answers, loaded, size]

/-- The same is seen of alike routers in the course of alike operations. -/
theorem Alike.observe_eq {operations operations' : List Operation}
    (operationsAlike : List.Forall₂ Operation.Alike operations operations') (alike : r.Alike r') :
    r.observe operations = r'.observe operations' := by
  induction operationsAlike generalizing r r' with
  | nil => rfl
  | cons first _ ih =>
    obtain ⟨-, next⟩ := alike.step first
    rw [observe, observe, alike.see_eq first, ih next]

/-! ### Main statement -/

/-- **Configured passwords are not seen.** Two new routers with the same seed are asked the same,
but the files that they load differ in passwords of proxies: in texts under the key `password` of
entries under `proxies`, none of which is empty or that of a null. Then in both, one operation after
another, a load has the same status, source and error; the same is logged; a flow goes through the
same proxy at the same place, with a header or with credentials for the tunnel in the one exactly if
in the other; a client that leaves has as many choices forgotten; and as many are remembered. -/
theorem passwords_stay_secret (seed : UInt64) {operations operations' : List Operation}
    (alike : List.Forall₂ Operation.Alike operations operations') :
    (ofSeed seed).observe operations = (ofSeed seed).observe operations' :=
  Alike.observe_eq alike
    ⟨Selector.sound_ofSeed seed, Selector.sound_ofSeed seed, rfl⟩

/-- An entry with a fallback rule, and with this password. -/
def guardedEntry (password : Bytes) : Document :=
  .mapping [(ascii "name", .scalar (ascii "a")), (ascii "url", .scalar (ascii "http://a")),
    (ascii "username", .scalar (ascii "ann")), (ascii "password", .scalar password),
    (ascii "rules", .sequence [.mapping [(ascii "type", .scalar (ascii "default"))]])]

/-- A directory with a configuration that has this entry. -/
def guarded (password : Bytes) : Config.FileTree :=
  .directory [(ascii "proxies.yaml",
    .file (.document (.mapping [(ascii "proxies", .sequence [guardedEntry password])])))]

/-- To load that directory, to ask for a flow, and to forget its client. -/
def guardedOperations (password : Bytes) : List Operation :=
  [.configure (guarded password).locate? (ascii "."),
    .request { host := some (ascii "b"), client := ascii "c" }, .clientDisconnected (ascii "c")]

theorem guardedEntry_alike {password password' : Bytes}
    (given : password ≠ [] ∧ password ≠ Document.nullText)
    (given' : password' ≠ [] ∧ password' ≠ Document.nullText) :
    Document.EntryAlike (guardedEntry password) (guardedEntry password') := by
  have passwords : Document.IsPassword (.scalar password) ∧
      Document.IsPassword (.scalar password') := ⟨⟨_, rfl, given⟩, ⟨_, rfl, given'⟩⟩
  exact ⟨rfl, .cons (.mk _ (Or.inl rfl)) (.cons (.mk _ (Or.inl rfl)) (.cons (.mk _ (Or.inl rfl))
    (.cons (.mk _ (Or.inr ⟨rfl, passwords⟩)) (.cons (.mk _ (Or.inl rfl)) .nil))))⟩

theorem guarded_alike {password password' : Bytes}
    (given : password ≠ [] ∧ password ≠ Document.nullText)
    (given' : password' ≠ [] ∧ password' ≠ Document.nullText) :
    (guarded password).Alike (guarded password') := by
  have list : Document.ListAlike (.sequence [guardedEntry password])
      (.sequence [guardedEntry password']) :=
    ⟨rfl, .cons (.mk _ (Or.inr (guardedEntry_alike given given'))) .nil⟩
  have document : Document.Alike
      (.mapping [(ascii "proxies", .sequence [guardedEntry password])])
      (.mapping [(ascii "proxies", .sequence [guardedEntry password'])]) :=
    ⟨rfl, .cons (.mk _ (Or.inr ⟨rfl, list⟩)) .nil⟩
  exact .directory (.cons (.mk _ (.file (.document document))) .nil)

/-- With another password the header is sent as well. -/
theorem passwords_stay_secret_in_header :
    let proxy : Proxy := {
      name := ascii "a", url := ascii "http://a", rules := [.fallback]
      username := some (ascii "ann") }
    (ofSeed 1).observe (guardedOperations (ascii "secret")) =
      (ofSeed 1).observe (guardedOperations (ascii "sesame")) ∧
    ((ofSeed 1).observe (guardedOperations (ascii "secret"))).map (·.answer) =
      [.configured .loaded (ascii "./proxies.yaml") [],
        .decided (some proxy) (some ⟨proxy, ⟨ascii "http", ascii "a", 80⟩, true, false⟩),
        .left 1] := by
  intro proxy
  have files : (guarded (ascii "secret")).Alike (guarded (ascii "sesame")) :=
    guarded_alike ⟨by decide, by decide⟩ ⟨by decide, by decide⟩
  have alike : List.Forall₂ Operation.Alike (guardedOperations (ascii "secret"))
      (guardedOperations (ascii "sesame")) :=
    .cons (.configure _ (Config.FileTree.locate?_alike files))
      (.cons (.same _) (.cons (.same _) .nil))
  exact ⟨passwords_stay_secret 1 alike, by decide +kernel⟩

end Router

end ProxyRouting
