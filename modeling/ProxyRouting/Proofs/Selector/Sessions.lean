import Mathlib.Algebra.GroupWithZero.Nat
import Mathlib.Data.List.Induction
import ProxyRouting.Proofs.Affinity.Placement
import ProxyRouting.Proofs.Selector.Isolation
import ProxyRouting.Proofs.Selector.Selection

/-!
# Sessions

What a selector remembers can be told from the history of its run, without looking into the cache.
An identity has a live session if the last operation that concerns it is a selection that gave a
proxy; a reload, a forgetting, and a selection that gave nothing end the session. The cache
holds the live sessions and nothing else, each with the proxy that was given, which belongs to
the registry in force (`sessions_are_remembered`). So nothing is left behind when every client has
been forgotten.
-/

namespace ProxyRouting.Selector

open Affinity (Cache)

variable {s : Selector} {identity : Identity} {operations : List Operation}

/-! ### What the history tells -/

/-- The operation decides what is remembered for an identity. -/
def Operation.concerns (identity : Identity) : Operation → Bool
  | .reload _ => true
  | .select flow scope => flow.identity scope = identity
  | .forget flow scope => flow.identity scope = identity
  | .forgetClient client => identity.client = client

/-- The proxy that an answer gives. -/
def Answer.selected? : Answer → Option Proxy
  | .selected choice => choice
  | _ => none

/-- The proxy of an identity's live session: the one that the last operation gave that concerns the
identity. -/
def session? (identity : Identity) (history : List Record) : Option Proxy :=
  (history.filter (·.operation.concerns identity)).getLast?.bind (·.answer.selected?)

theorem session?_append_singleton (identity : Identity) (history : List Record) (r : Record) :
    session? identity (history ++ [r]) =
      if r.operation.concerns identity then r.answer.selected? else session? identity history := by
  rw [session?, List.filter_append]
  split_ifs with concerned
  · simp [concerned]
  · simp [concerned, session?]

theorem records_append_singleton (s : Selector) (operations : List Operation)
    (operation : Operation) :
    s.records (operations ++ [operation]) =
      s.records operations ++ [(s.run operations).record operation] := by
  induction operations generalizing s with
  | nil => rfl
  | cons first rest ih => exact congrArg (s.record first :: ·) (ih _)

/-! ### What the cache holds -/

/-- What is remembered for an identity after an operation. -/
theorem find?_perform (sound : s.Sound) (operation : Operation) (identity : Identity) :
    (s.perform operation).affinity.find? identity =
      if operation.concerns identity then (s.answer operation).selected?
      else s.affinity.find? identity := by
  cases operation with
  | reload configured =>
    simp [perform, reload, Operation.concerns, answer, Answer.selected?, Cache.find?_clear]
  | select flow scope =>
    by_cases same : flow.identity scope = identity
    · subst same
      simp [perform, Operation.concerns, answer, Answer.selected?, find?_select_self sound]
    · simp [perform, Operation.concerns, same, find?_select_of_ne (Ne.symm same)]
  | forget flow scope =>
    by_cases same : flow.identity scope = identity
    · subst same
      simp [perform, forget, Operation.concerns, answer, Answer.selected?, Cache.find?_erase_self]
    · simp [perform, forget, Operation.concerns, same, Cache.find?_erase_of_ne _ (Ne.symm same)]
  | forgetClient client =>
    by_cases same : identity.client = client
    · subst same
      simp [perform, forgetClient, Operation.concerns, answer, Answer.selected?,
        Cache.find?_eraseClient_self]
    · simp [perform, forgetClient, Operation.concerns, same, Cache.find?_eraseClient_of_ne _ same]

/-- The run is that of the history: for each identity the proxy of its live session is
remembered. -/
theorem find?_run (seed : UInt64) (operations : List Operation) (identity : Identity) :
    ((ofSeed seed).run operations).affinity.find? identity =
      session? identity ((ofSeed seed).records operations) := by
  induction operations using List.reverseRecOn with
  | nil => exact Cache.find?_empty .standard identity
  | append_singleton operations operation ih =>
    have sound := sound_of_reachable ⟨seed, operations, rfl⟩
    rw [records_append_singleton, session?_append_singleton, ← ih, run, List.foldl_append]
    exact find?_perform sound operation identity

theorem tidy_settle {cache : Cache} (tidy : cache.Tidy) (identity : Identity)
    (choice : Option Proxy) : (settle cache identity choice).Tidy := by
  cases choice with
  | none => exact tidy.erase identity
  | some proxy => exact tidy.store identity proxy

theorem tidy_perform (tidy : s.affinity.Tidy) (operation : Operation) :
    (s.perform operation).affinity.Tidy := by
  cases operation with
  | reload configured => exact s.affinity.tidy_clear
  | forget flow scope => exact tidy.erase _
  | forgetClient client => exact tidy.eraseClient client
  | select flow scope =>
    rw [perform]
    cases loaded : s.registry with
    | none =>
      simp only [select, loaded]
      exact tidy
    | some registry =>
      rcases select_cases loaded flow scope with ⟨proxy, eq, -⟩ | ⟨-, eq⟩
      · rw [eq]
        exact tidy
      · rw [eq]
        exact tidy_settle tidy _ _

theorem tidy_run (seed : UInt64) (operations : List Operation) :
    ((ofSeed seed).run operations).affinity.Tidy := by
  induction operations using List.reverseRecOn with
  | nil => exact Cache.tidy_empty .standard
  | append_singleton operations operation ih =>
    rw [run, List.foldl_append]
    exact tidy_perform ih operation

/-! ### Clients that leave -/

/-- Forgets some clients, one after another, and tells how many choices there were for each. -/
def forgetClients (s : Selector) : List Bytes → List Nat × Selector
  | [] => ([], s)
  | client :: rest =>
    let (count, s) := s.forgetClient client
    let (counts, s) := s.forgetClients rest
    (count :: counts, s)

theorem forgetClients_cons (s : Selector) (client : Bytes) (rest : List Bytes) :
    s.forgetClients (client :: rest) =
      (s.affinity.clientSize client :: ((s.forgetClient client).2.forgetClients rest).1,
        ((s.forgetClient client).2.forgetClients rest).2) := rfl

theorem tidy_forgetClients (tidy : s.affinity.Tidy) (clients : List Bytes) :
    (s.forgetClients clients).2.affinity.Tidy := by
  induction clients generalizing s with
  | nil => exact tidy
  | cons client rest ih =>
    rw [forgetClients_cons]
    exact ih (tidy.eraseClient client)

/-- What the clients had and what is left make up the whole. -/
theorem sum_forgetClients (tidy : s.affinity.Tidy) (clients : List Bytes) :
    (s.forgetClients clients).1.sum + (s.forgetClients clients).2.affinity.size =
      s.affinity.size := by
  induction clients generalizing s with
  | nil => simp [forgetClients]
  | cons client rest ih =>
    have first : s.affinity.clientSize client + (s.forgetClient client).2.affinity.size =
        s.affinity.size := tidy.clientSize_add_size_eraseClient client
    have later := ih (s := (s.forgetClient client).2) (tidy.eraseClient client)
    simp only [forgetClients_cons, List.sum_cons]
    omega

/-- Nothing of the clients is left. -/
theorem identities_forgetClients (tidy : s.affinity.Tidy) (clients : List Bytes) :
    (s.forgetClients clients).2.affinity.identities =
      s.affinity.identities.filter (·.client ∉ clients) := by
  induction clients generalizing s with
  | nil => simp [forgetClients]
  | cons client rest ih =>
    have removed : (s.forgetClient client).2.affinity.identities =
        s.affinity.identities.filter (·.client ≠ client) := tidy.identities_eraseClient client
    rw [forgetClients_cons, ih (tidy.eraseClient client), removed, Finset.filter_filter]
    simp only [List.mem_cons, not_or]

/-- Something is remembered only for clients for whom something was selected. -/
theorem exists_select_of_remembered {seed : UInt64} {proxy : Proxy}
    (found : ((ofSeed seed).run operations).affinity.find? identity = some proxy) :
    ∃ flow scope, .select flow scope ∈ operations ∧ flow.identity scope = identity := by
  induction operations using List.reverseRecOn with
  | nil =>
    have nothing := Cache.find?_empty .standard identity
    cases nothing.symm.trans found
  | append_singleton operations operation ih =>
    have sound := sound_of_reachable ⟨seed, operations, rfl⟩
    rw [run, List.foldl_append] at found
    have step := (find?_perform sound operation identity).symm.trans found
    split_ifs at step with concerned
    · cases operation with
      | select flow scope => exact ⟨flow, scope, by simp, of_decide_eq_true concerned⟩
      | reload configured => cases step
      | forget flow scope => cases step
      | forgetClient client => cases step
    · obtain ⟨flow, scope, mem, same⟩ := ih step
      exact ⟨flow, scope, List.mem_append_left _ mem, same⟩

/-! ### Main statement -/

/-- **The cache holds the live sessions.** After any run something is remembered for exactly the
identities with a live session, once for each of them, and it is the proxy that was given last. It
is a candidate or the fallback of the registry in force, which finds it under its name; without a
registry nothing is remembered. So if all clients for whom something was selected are forgotten,
in any order, then the counts add up to the size, and nothing is left. -/
theorem sessions_are_remembered (seed : UInt64) (operations : List Operation) :
    let s := (ofSeed seed).run operations
    let history := (ofSeed seed).records operations
    (∀ identity, identity ∈ s.affinity.identities ↔ (session? identity history).isSome = true) ∧
    s.affinity.size = s.affinity.identities.card ∧
    (∀ identity, s.affinity.find? identity = session? identity history) ∧
    (∀ identity proxy, session? identity history = some proxy →
      ∃ registry, s.registry = some registry ∧
        (proxy ∈ registry.candidates ∨ registry.fallback = some proxy) ∧
        registry.find? proxy.name = some proxy) ∧
    (s.registry = none → s.affinity.size = 0) ∧
    ∀ clients : List Bytes, (∀ flow scope, .select flow scope ∈ operations → flow.client ∈ clients) →
      (s.forgetClients clients).1.sum = s.affinity.size ∧
        (s.forgetClients clients).2.affinity.size = 0 := by
  intro s history
  have sound : s.Sound := sound_of_reachable ⟨seed, operations, rfl⟩
  have tidy : s.affinity.Tidy := tidy_run seed operations
  have found := find?_run seed operations
  have belongs : ∀ identity proxy, session? identity history = some proxy →
      ∃ registry, s.registry = some registry ∧ registry.find? proxy.name = some proxy := by
    intro identity proxy live
    exact sound.remembered identity proxy ((found identity).trans live)
  refine ⟨?_, tidy.size_eq_card, found, ?_, ?_, ?_⟩
  · intro identity
    rw [tidy.mem_identities_iff, found]
  · intro identity proxy live
    obtain ⟨registry, loaded, named⟩ := belongs identity proxy live
    exact ⟨registry, loaded, Registry.mem_members.1 (Registry.mem_of_find? named).1, named⟩
  · intro unloaded
    rw [tidy.size_eq_card, Finset.card_eq_zero, Finset.eq_empty_iff_forall_notMem]
    intro identity mem
    obtain ⟨proxy, held⟩ := Option.isSome_iff_exists.1 (tidy.mem_identities_iff.1 mem)
    obtain ⟨registry, loaded, -⟩ := sound.remembered identity proxy held
    cases unloaded.symm.trans loaded
  · intro clients seen
    have nothing : (s.forgetClients clients).2.affinity.size = 0 := by
      rw [(tidy_forgetClients tidy clients).size_eq_card, identities_forgetClients tidy,
        Finset.card_eq_zero, Finset.filter_eq_empty_iff]
      intro identity mem
      obtain ⟨proxy, held⟩ := Option.isSome_iff_exists.1 (tidy.mem_identities_iff.1 mem)
      obtain ⟨flow, scope, selected, rfl⟩ := exists_select_of_remembered held
      exact not_not.2 (seen flow scope selected)
    have counted := sum_forgetClients tidy clients
    exact ⟨by omega, nothing⟩

/-- A session before any registry is loaded, and then four of two clients, of which one is
forgotten. -/
def twoClients : List Operation := [
  .select { client := ascii "early" } .tunnel,
  .reload (some ([{ name := ascii "p", rules := [.fallback] }], [])),
  .select { client := ascii "c" } .tunnel,
  .select { client := ascii "d" } .tunnel,
  .select { host := some (ascii "h"), client := ascii "c" } .exchange,
  .select { client := ascii "c" } .exchange,
  .forget { client := ascii "c" } .tunnel]

theorem sessions_are_remembered_of_two_clients :
    let s := (ofSeed 0).run twoClients
    let left := s.forgetClients [ascii "d", ascii "early", ascii "c"]
    s.affinity.size = 3 ∧ left.1 = [1, 0, 2] ∧ left.1.sum = 3 ∧ left.2.affinity.size = 0 := by
  intro s left
  have size : s.affinity.size = 3 := by decide +kernel
  have counts : left.1 = [1, 0, 2] := by decide +kernel
  obtain ⟨-, -, -, -, -, forgotten⟩ := sessions_are_remembered 0 twoClients
  have seen : ∀ flow scope, .select flow scope ∈ twoClients →
      flow.client ∈ [ascii "d", ascii "early", ascii "c"] := by
    intro flow scope mem
    simp only [twoClients, List.mem_cons, Operation.select.injEq, reduceCtorEq, List.not_mem_nil,
      or_false, false_or] at mem
    rcases mem with ⟨rfl, -⟩ | ⟨rfl, -⟩ | ⟨rfl, -⟩ | ⟨rfl, -⟩ | ⟨rfl, -⟩ <;> decide
  obtain ⟨sum, nothing⟩ := forgotten _ seen
  exact ⟨size, counts, sum.trans size, nothing⟩

end ProxyRouting.Selector
