import ProxyRouting.Proofs.Affinity.Clients
import ProxyRouting.Proofs.Selector.Runs

/-!
# Clients do not disturb each other

All clients share one selector, its cache and its generator. What an operation answers depends on
the registry, on what is remembered for its own client, and on the generator, and an operation
changes what is remembered for its own client only. So the one thing by which a client can
disturb another is a draw, which moves the generator.

A run is seen here as the list of its `Record`s: each operation with its answer and the generator
that it found. Operations of other clients that draw nothing can be put into a run, at any places,
and its records stay the same. If nothing is drawn at all, the records of each client
stay the same in any order of the clients' operations (`clients_do_not_interfere`).
-/

namespace ProxyRouting

/-- The third list is woven of the first two: it has all their items, those of each in order. -/
inductive Woven {α : Type} : List α → List α → List α → Prop where
  /-- Nothing is woven of nothing. -/
  | nil : Woven [] [] []
  /-- The next item is the next one of the first list. -/
  | left {xs ys zs : List α} (x : α) : Woven xs ys zs → Woven (x :: xs) ys (x :: zs)
  /-- The next item is the next one of the second list. -/
  | right {xs ys zs : List α} (y : α) : Woven xs ys zs → Woven xs (y :: ys) (y :: zs)

namespace Woven

variable {α : Type} {xs ys zs : List α}

theorem mem_or_mem (woven : Woven xs ys zs) {z : α} (mem : z ∈ zs) : z ∈ xs ∨ z ∈ ys := by
  induction woven with
  | nil => cases mem
  | left x _ ih =>
    rcases List.mem_cons.1 mem with rfl | later
    · exact Or.inl List.mem_cons_self
    · exact (ih later).imp_left (List.mem_cons_of_mem _)
  | right y _ ih =>
    rcases List.mem_cons.1 mem with rfl | later
    · exact Or.inr List.mem_cons_self
    · exact (ih later).imp_right (List.mem_cons_of_mem _)

/-- A filter that tells the two lists apart gives the first one back. -/
theorem filter_eq_left (woven : Woven xs ys zs) {keep : α → Bool}
    (left : ∀ x ∈ xs, keep x = true) (right : ∀ y ∈ ys, keep y = false) :
    zs.filter keep = xs := by
  induction woven with
  | nil => rfl
  | left x _ ih =>
    rw [List.filter_cons_of_pos (left x List.mem_cons_self),
      ih (fun x' mem => left x' (List.mem_cons_of_mem _ mem)) right]
  | right y _ ih =>
    have dropped : ¬ keep y = true := by simp [right y List.mem_cons_self]
    rw [List.filter_cons_of_neg dropped,
      ih left fun y' mem => right y' (List.mem_cons_of_mem _ mem)]

end Woven

namespace Selector

open Affinity (Cache)

/-! ### What is seen of a run -/

/-- The client whose choices an operation is about. A reload is about those of all clients. -/
def Operation.client? : Operation → Option Bytes
  | .reload _ => none
  | .select flow _ => some flow.client
  | .forget flow _ => some flow.client
  | .forgetClient client => some client

/-- The operation is one of some clients, or a reload. -/
def Operation.isOf (clients : Bytes → Bool) (operation : Operation) : Bool :=
  operation.client?.all clients

/-- What an operation answers. -/
inductive Answer where
  /-- Nothing, to a reload. -/
  | reloaded
  /-- The proxy that was selected, if one was. -/
  | selected (choice : Option Proxy)
  /-- Whether there was a choice to forget. -/
  | forgot (found : Bool)
  /-- How many choices were forgotten for a client. -/
  | forgotClient (count : Nat)
  deriving DecidableEq, Repr

/-- The answer to an operation. -/
def answer (s : Selector) : Operation → Answer
  | .reload _ => .reloaded
  | .select flow scope => .selected (s.select flow scope).1
  | .forget flow scope => .forgot (s.forget flow scope).1
  | .forgetClient client => .forgotClient (s.forgetClient client).1

/-- Whether an operation draws a random number: it is a selection for which nothing usable is
remembered, and at least two candidates take the flow. -/
def draws (s : Selector) : Operation → Bool
  | .select flow scope =>
    match s.registry with
    | some registry =>
      (s.remembered? registry flow (flow.identity scope)).isNone &&
        2 ≤ (registry.matching flow).length
    | none => false
  | _ => false

/-- What is seen of an operation in a run. -/
structure Record where
  /-- The operation. -/
  operation : Operation
  /-- What it answered. -/
  answer : Answer
  /-- Whether it drew a random number. -/
  drew : Bool
  /-- The generator that it found. -/
  generator : Random.MersenneTwister
  deriving DecidableEq

/-- What is seen of an operation. -/
def record (s : Selector) (operation : Operation) : Record :=
  ⟨operation, s.answer operation, s.draws operation, s.generator⟩

@[simp] theorem operation_record (s : Selector) (operation : Operation) :
    (s.record operation).operation = operation := rfl

/-- What is seen of some operations, done one after another. -/
def records (s : Selector) : List Operation → List Record
  | [] => []
  | operation :: rest => s.record operation :: (s.perform operation).records rest

variable {s t : Selector} {clients : Bytes → Bool} {operation : Operation}
  {operations : List Operation}

theorem operations_of_records (s : Selector) (operations : List Operation) :
    (s.records operations).map (·.operation) = operations := by
  induction operations generalizing s with
  | nil => rfl
  | cons operation rest ih => exact congrArg (operation :: ·) (ih _)

theorem mem_of_mem_records {r : Record} (mem : r ∈ s.records operations) :
    r.operation ∈ operations := by
  rw [← operations_of_records s operations]
  exact List.mem_map_of_mem mem

/-- Only a draw moves the generator. -/
theorem generator_perform (quiet : s.draws operation = false) :
    (s.perform operation).generator = s.generator := by
  cases operation with
  | reload configured => rfl
  | forget flow scope => rfl
  | forgetClient client => rfl
  | select flow scope =>
    cases loaded : s.registry with
    | none => simp only [Selector.perform, Selector.select, loaded]
    | some registry =>
      rcases select_cases loaded flow scope with ⟨held, eq, -⟩ | ⟨none, eq⟩
      · simp only [Selector.perform, eq]
      · have few : (registry.matching flow).length ≤ 1 := by
          simp only [draws, loaded, none, Option.isNone_none, Bool.true_and,
            decide_eq_false_iff_not] at quiet
          omega
        simp only [Selector.perform, eq, Registry.choose_of_few few]

/-! ### Selectors that agree for some clients -/

/-- The selectors have the same registry, the same generator, and the same choices of some
clients. -/
structure Agree (clients : Bytes → Bool) (s t : Selector) : Prop where
  /-- The registries are the same. -/
  registry : s.registry = t.registry
  /-- The generators are the same. -/
  generator : s.generator = t.generator
  /-- The caches agree. -/
  affinity : Cache.Agree clients s.affinity t.affinity

namespace Agree

theorem refl (clients : Bytes → Bool) (s : Selector) : Agree clients s s :=
  ⟨rfl, rfl, .refl clients s.affinity⟩

theorem find? (agree : Agree clients s t) {flow : Flow} (own : clients flow.client = true)
    (scope : Scope) :
    s.affinity.find? (flow.identity scope) = t.affinity.find? (flow.identity scope) :=
  agree.affinity.find? own

theorem remembered? (agree : Agree clients s t) (registry : Registry) {flow : Flow}
    (own : clients flow.client = true) (scope : Scope) :
    s.remembered? registry flow (flow.identity scope) =
      t.remembered? registry flow (flow.identity scope) := by
  simp only [Selector.remembered?, agree.find? own scope]

theorem settle {one two : Cache} (agree : Cache.Agree clients one two) (identity : Identity)
    (choice : Option Proxy) :
    Cache.Agree clients (settle one identity choice) (settle two identity choice) := by
  cases choice with
  | none => exact agree.erase identity
  | some proxy => exact agree.store identity proxy

theorem settle_left {one two : Cache} (agree : Cache.Agree clients one two) {identity : Identity}
    (choice : Option Proxy) (foreign : clients identity.client = false) :
    Cache.Agree clients (Selector.settle one identity choice) two := by
  cases choice with
  | none => exact agree.erase_left foreign
  | some proxy => exact agree.store_left proxy foreign

/-- A selection for one of the clients gives the same on both. -/
theorem select (agree : Agree clients s t) {flow : Flow} (own : clients flow.client = true)
    (scope : Scope) :
    (s.select flow scope).1 = (t.select flow scope).1 ∧
      Agree clients (s.select flow scope).2 (t.select flow scope).2 := by
  cases loaded : s.registry with
  | none =>
    have loaded' := agree.registry.symm.trans loaded
    simp only [Selector.select, loaded, loaded', true_and]
    exact agree
  | some registry =>
    have loaded' := agree.registry.symm.trans loaded
    have same := agree.remembered? registry own scope
    cases held : s.remembered? registry flow (flow.identity scope) with
    | some proxy =>
      rw [select_of_remembered loaded held, select_of_remembered loaded' (same.symm.trans held)]
      exact ⟨rfl, agree⟩
    | none =>
      rw [select_of_not_remembered loaded held,
        select_of_not_remembered loaded' (same.symm.trans held), agree.generator]
      exact ⟨rfl, agree.registry, rfl, settle agree.affinity _ _⟩

/-- An operation of one of the clients, or a reload, is answered alike and keeps the agreement. -/
theorem perform (agree : Agree clients s t) (own : operation.isOf clients = true) :
    s.record operation = t.record operation ∧
      Agree clients (s.perform operation) (t.perform operation) := by
  cases operation with
  | reload configured =>
    refine ⟨?_, rfl, agree.generator, agree.affinity.clear⟩
    simp only [record, answer, draws, agree.generator]
  | select flow scope =>
    obtain ⟨same, after⟩ := agree.select own scope
    refine ⟨?_, after⟩
    simp only [record, answer, draws, agree.generator, agree.registry, same]
    cases t.registry with
    | none => rfl
    | some registry => simp only [agree.remembered? registry own scope]
  | forget flow scope =>
    refine ⟨?_, agree.registry, agree.generator, agree.affinity.erase _⟩
    simp only [record, answer, draws, agree.generator, Selector.forget, agree.find? own scope]
  | forgetClient client =>
    refine ⟨?_, agree.registry, agree.generator, agree.affinity.eraseClient _⟩
    simp only [record, answer, draws, agree.generator, Selector.forgetClient,
      agree.affinity.clientSize own]

/-- An operation of another client that draws nothing goes unnoticed. -/
theorem perform_left (agree : Agree clients s t) (foreign : operation.isOf clients = false)
    (quiet : s.draws operation = false) : Agree clients (s.perform operation) t := by
  have generator := (generator_perform quiet).trans agree.generator
  cases operation with
  | reload configured => cases foreign
  | select flow scope =>
    refine ⟨(registry_select s flow scope).trans agree.registry, generator, ?_⟩
    cases loaded : s.registry with
    | none =>
      simp only [Selector.perform, Selector.select, loaded]
      exact agree.affinity
    | some registry =>
      rcases select_cases loaded flow scope with ⟨held, eq, -⟩ | ⟨-, eq⟩
      · simp only [Selector.perform, eq]
        exact agree.affinity
      · simp only [Selector.perform, eq]
        exact settle_left agree.affinity _ foreign
  | forget flow scope => exact ⟨agree.registry, generator, agree.affinity.erase_left foreign⟩
  | forgetClient client =>
    exact ⟨agree.registry, generator, agree.affinity.eraseClient_left foreign⟩

/-- The records of some clients in a run are those of a run without the others, if the others
draw nothing. -/
theorem records_filter (agree : Agree clients s t)
    (quiet : ∀ r ∈ s.records operations, r.operation.isOf clients = false → r.drew = false) :
    (s.records operations).filter (·.operation.isOf clients) =
      t.records (operations.filter (·.isOf clients)) := by
  induction operations generalizing s t with
  | nil => rfl
  | cons operation rest ih =>
    have quiet' := fun r mem => quiet r (List.mem_cons_of_mem _ mem)
    by_cases own : operation.isOf clients = true
    · obtain ⟨same, after⟩ := agree.perform own
      simp only [records, List.filter_cons, operation_record, own, if_true, ih after quiet', same]
    · have foreign := Bool.eq_false_iff.2 own
      have after := agree.perform_left foreign (quiet _ List.mem_cons_self foreign)
      simp only [records, List.filter_cons, operation_record, foreign, Bool.false_eq_true,
        if_false, ih after quiet']

end Agree

/-! ### Main statement -/

/-- The clients that none of the operations is about. -/
def strangersTo (operations : List Operation) (client : Bytes) : Bool :=
  operations.all (·.client? ≠ some client)

theorem isOf_strangersTo_iff : operation.isOf (strangersTo operations) = true ↔
    ∀ client, operation.client? = some client → ∀ other ∈ operations, other.client? ≠ some client := by
  simp only [Operation.isOf, Option.all_eq_true, strangersTo, List.all_eq_true, decide_eq_true_eq]

/-- If no client draws in a run of its own operations and the reloads, then none draws in the run
of them all. -/
theorem quiet_of_views
    (views : ∀ client, ∃ t, Agree (· = client) s t ∧
      ∀ r ∈ t.records (operations.filter (·.isOf (· = client))), r.drew = false) :
    ∀ r ∈ s.records operations, r.drew = false := by
  induction operations generalizing s with
  | nil =>
    intro r mem
    cases mem
  | cons operation rest ih =>
    -- The operation draws nothing, as it draws nothing in the view of its client.
    have quiet : s.draws operation = false := by
      cases isOf : operation.client? with
      | none =>
        cases operation with
        | reload configured => rfl
        | _ => cases isOf
      | some client =>
        have own : operation.isOf (· = client) = true := by
          simp only [Operation.isOf, isOf, Option.all_some, decide_true]
        obtain ⟨t, agree, silent⟩ := views client
        rw [List.filter_cons_of_pos own] at silent
        have same := congrArg Record.drew (agree.perform own).1
        exact same.trans (silent _ List.mem_cons_self)
    have later : ∀ r ∈ (s.perform operation).records rest, r.drew = false := by
      refine ih fun client => ?_
      obtain ⟨t, agree, silent⟩ := views client
      by_cases own : operation.isOf (· = client) = true
      · rw [List.filter_cons_of_pos own] at silent
        exact ⟨t.perform operation, (agree.perform own).2,
          fun r mem => silent r (List.mem_cons_of_mem _ mem)⟩
      · rw [List.filter_cons_of_neg own] at silent
        exact ⟨t, agree.perform_left (Bool.eq_false_iff.2 own) quiet, silent⟩
    intro r mem
    rcases List.mem_cons.1 mem with rfl | mem'
    · exact quiet
    · exact later r mem'

/-- **Clients disturb each other by draws only.** Operations of clients that do not occur in a run
can be put into it at any places: if their selections draw nothing, the operations of the run give
the same answers, draw the same, and find the same generators. And if a run draws nothing at
all, every run with the same operations of each client in the same order, among the same
reloads, draws nothing either and gives each client the same answers. -/
theorem clients_do_not_interfere (s : Selector) :
    (∀ original inserted full, Woven original inserted full →
      (∀ operation ∈ inserted, ∃ client, operation.client? = some client ∧
        ∀ own ∈ original, own.client? ≠ some client) →
      (∀ r ∈ s.records full, r.operation ∈ inserted → r.drew = false) →
      (s.records full).filter (·.operation ∉ inserted) = s.records original) ∧
    ∀ one other : List Operation,
      (∀ client, one.filter (·.isOf (· = client)) = other.filter (·.isOf (· = client))) →
      (∀ r ∈ s.records one, r.drew = false) →
      (∀ r ∈ s.records other, r.drew = false) ∧
      ∀ client, (s.records one).filter (·.operation.isOf (· = client)) =
        (s.records other).filter (·.operation.isOf (· = client)) := by
  constructor
  · intro original inserted full woven others quiet
    have own : ∀ operation ∈ original, operation.isOf (strangersTo inserted) = true := by
      intro operation mem
      refine isOf_strangersTo_iff.2 fun client isOf other mem' isOf' => ?_
      obtain ⟨client', isOf'', absent⟩ := others other mem'
      cases isOf'.symm.trans isOf''
      exact absent operation mem isOf
    have foreign : ∀ operation ∈ inserted, operation.isOf (strangersTo inserted) = false := by
      intro operation mem
      obtain ⟨client, isOf, -⟩ := others operation mem
      exact Bool.eq_false_iff.2 fun stays =>
        isOf_strangersTo_iff.1 stays client isOf operation mem isOf
    -- So it is by their clients that the records of the inserted operations can be told.
    have told : ∀ r ∈ s.records full,
        decide (r.operation ∉ inserted) = r.operation.isOf (strangersTo inserted) := by
      intro r mem
      by_cases isInserted : r.operation ∈ inserted
      · simp [isInserted, foreign _ isInserted]
      · have isOwn := (woven.mem_or_mem (mem_of_mem_records mem)).resolve_right isInserted
        simp [isInserted, own _ isOwn]
    have silent : ∀ r ∈ s.records full,
        r.operation.isOf (strangersTo inserted) = false → r.drew = false := by
      intro r mem isForeign
      rw [← told r mem, decide_eq_false_iff_not, not_not] at isForeign
      exact quiet r mem isForeign
    rw [List.filter_congr told, (Agree.refl _ s).records_filter silent,
      woven.filter_eq_left own foreign]
  · intro one other same quiet
    have views (client : Bytes) (r : Record)
        (mem : r ∈ s.records (one.filter (·.isOf (· = client)))) : r.drew = false := by
      rw [← (Agree.refl _ s).records_filter fun r mem _ => quiet r mem] at mem
      exact quiet r (List.mem_filter.1 mem).1
    have quiet' : ∀ r ∈ s.records other, r.drew = false := by
      refine quiet_of_views fun client => ⟨s, .refl _ s, ?_⟩
      rw [← same client]
      exact views client
    refine ⟨quiet', fun client => ?_⟩
    rw [(Agree.refl _ s).records_filter fun r mem _ => quiet r mem,
      (Agree.refl _ s).records_filter fun r mem _ => quiet' r mem, same client]

/-- A reload with two proxies for port 80 and a fallback. -/
def webReload : Operation :=
  .reload (some ([{ name := ascii "a", weight := 3, rules := [.port 80] },
    { name := ascii "b", rules := [.port 80] }, { name := ascii "z", rules := [.fallback] }], []))

/-- Proxies are drawn for a client, and between the draws another client is given the fallback and
leaves. And two clients are given the fallback in either order. -/
theorem clients_do_not_interfere_between_draws :
    ((ofSeed 0).records [webReload,
        .select { port := some 443, client := ascii "d" } .exchange,
        .select { port := some 80, client := ascii "c" } .exchange,
        .forgetClient (ascii "d"),
        .forgetClient (ascii "c"),
        .select { port := some 443, client := ascii "d" } .tunnel,
        .select { port := some 80, client := ascii "c" } .exchange]).filter
      (·.operation ∉ [Operation.select { port := some 443, client := ascii "d" } .exchange,
        .forgetClient (ascii "d"), .select { port := some 443, client := ascii "d" } .tunnel]) =
    (ofSeed 0).records [webReload,
        .select { port := some 80, client := ascii "c" } .exchange,
        .forgetClient (ascii "c"),
        .select { port := some 80, client := ascii "c" } .exchange] ∧
    ((ofSeed 0).records [webReload, .select { client := ascii "c" } .tunnel,
        .forgetClient (ascii "d"), .forgetClient (ascii "c")]).filter
      (·.operation.isOf (· = ascii "c")) =
    ((ofSeed 0).records [webReload, .forgetClient (ascii "d"),
        .select { client := ascii "c" } .tunnel, .forgetClient (ascii "c")]).filter
      (·.operation.isOf (· = ascii "c")) := by
  obtain ⟨inserting, reordering⟩ := clients_do_not_interfere (ofSeed 0)
  constructor
  · refine inserting _ _ _ (.left _ (.right _ (.left _ (.right _ (.left _ (.right _ (.left _
      .nil))))))) (fun operation mem => ⟨ascii "d", ?_⟩) (by decide +kernel)
    revert operation mem
    decide +kernel
  · refine (reordering _ _ (fun client => ?_) (by decide +kernel)).2 (ascii "c")
    by_cases c : ascii "c" = client
    · subst c
      decide
    · by_cases d : ascii "d" = client
      · subst d
        decide
      · simp [webReload, Operation.isOf, Operation.client?, c, d]

end Selector

end ProxyRouting
