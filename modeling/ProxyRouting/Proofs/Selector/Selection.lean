import ProxyRouting.Proofs.Selector.Runs

/-!
# What a selection gives

What `select` gives is fixed by the registry in force and by what is remembered for the flow's
identity, up to the draw among several candidates. What is remembered matters only as long
as it takes the flow, and what is given is remembered. This holds of a selector after any run
(`select_of_reachable`).
-/

namespace ProxyRouting.Selector

open Affinity (Cache)

variable {s : Selector} {registry : Registry} {flow : Flow} {scope : Scope} {proxy : Proxy}

/-! ### The proxy -/

/-- What is selected is the fallback, or a candidate that takes the flow. -/
theorem member_of_select (loaded : s.registry = some registry)
    (selected : (s.select flow scope).1 = some proxy) :
    registry.fallback = some proxy ∨ proxy ∈ registry.matching flow := by
  rcases select_cases loaded flow scope with ⟨held, eq, -, found, accepts⟩ | ⟨-, eq⟩
  · rw [eq] at selected
    cases selected
    rcases Registry.mem_members.1 (Registry.mem_of_find? found).1 with candidate | fallback
    · exact Or.inr (Registry.mem_matching.2 ⟨candidate, accepts⟩)
    · exact Or.inl fallback
  · rw [eq] at selected
    rcases registry.choose_cases flow s.generator with ⟨-, chosen⟩ | ⟨candidate, mem, chosen⟩
    · exact Or.inl (chosen.symm.trans selected)
    · cases chosen.symm.trans selected
      exact Or.inr mem

/-- Nothing is selected exactly if there is nothing to select. -/
theorem select_eq_none_iff (loaded : s.registry = some registry) :
    (s.select flow scope).1 = none ↔ registry.matching flow = [] ∧ registry.fallback = none := by
  constructor
  · intro nothing
    rcases select_cases loaded flow scope with ⟨held, eq, -⟩ | ⟨-, eq⟩
    · rw [eq] at nothing
      cases nothing
    · rw [eq] at nothing
      rcases registry.choose_cases flow s.generator with ⟨none, chosen⟩ | ⟨candidate, -, chosen⟩
      · exact ⟨none, chosen.symm.trans nothing⟩
      · cases chosen.symm.trans nothing
  · rintro ⟨none, noFallback⟩
    cases selected : (s.select flow scope).1 with
    | none => rfl
    | some proxy =>
      rcases member_of_select loaded selected with isFallback | mem
      · rw [noFallback] at isFallback
        cases isFallback
      · rw [none] at mem
        cases mem

/-- The fallback is selected beside a candidate that takes the flow only if it was remembered. -/
theorem remembered_of_fallback_selected (wellFormed : registry.WellFormed)
    (loaded : s.registry = some registry) (selected : (s.select flow scope).1 = some proxy)
    (fallback : registry.fallback = some proxy) (some_takes : registry.matching flow ≠ []) :
    s.affinity.find? (flow.identity scope) = some proxy := by
  rcases select_cases loaded flow scope with ⟨held, eq, found, -⟩ | ⟨-, eq⟩
  · rw [eq] at selected
    cases selected
    exact found
  · rw [eq] at selected
    rcases registry.choose_cases flow s.generator with ⟨none, -⟩ | ⟨candidate, mem, chosen⟩
    · exact absurd none some_takes
    · cases chosen.symm.trans selected
      have notFallback := wellFormed.candidates proxy (Registry.mem_matching.1 mem).1
      rw [wellFormed.fallback proxy fallback] at notFallback
      cases notFallback

/-- Where nothing usable is remembered, a candidate is selected if there is one. -/
theorem mem_matching_of_not_remembered (loaded : s.registry = some registry)
    (unusable : ∀ held, s.affinity.find? (flow.identity scope) = some held →
      held.accepts flow = false)
    (some_takes : registry.matching flow ≠ []) :
    ∃ candidate ∈ registry.matching flow, (s.select flow scope).1 = some candidate := by
  rcases select_cases loaded flow scope with ⟨held, -, found, -, accepts⟩ | ⟨-, eq⟩
  · rw [unusable held found] at accepts
    cases accepts
  · rw [eq]
    rcases registry.choose_cases flow s.generator with ⟨none, -⟩ | chosen
    · exact absurd none some_takes
    · exact chosen

/-! ### What is remembered afterwards -/

/-- What is selected is remembered, and if nothing is, nothing is remembered. -/
theorem find?_select_self (sound : s.Sound) :
    (s.select flow scope).2.affinity.find? (flow.identity scope) = (s.select flow scope).1 := by
  cases loaded : s.registry with
  | none =>
    simp only [select, loaded]
    cases found : s.affinity.find? (flow.identity scope) with
    | none => rfl
    | some proxy =>
      obtain ⟨registry, loaded', -⟩ := sound.remembered _ _ found
      cases loaded.symm.trans loaded'
  | some registry =>
    rcases select_cases loaded flow scope with ⟨proxy, eq, found, -⟩ | ⟨-, eq⟩
    · rw [eq]
      exact found
    · rw [eq]
      exact find?_settle_self _ _ _

theorem find?_select_of_ne {identity : Identity} (ne : identity ≠ flow.identity scope) :
    (s.select flow scope).2.affinity.find? identity = s.affinity.find? identity := by
  cases loaded : s.registry with
  | none => simp only [select, loaded]
  | some registry =>
    rcases select_cases loaded flow scope with ⟨proxy, eq, -⟩ | ⟨-, eq⟩
    · rw [eq]
    · rw [eq]
      exact find?_settle_of_ne _ _ ne

/-! ### Main statement -/

theorem matching_eq_nil_iff : registry.matching flow = [] ↔
    ∀ candidate ∈ registry.candidates, candidate.accepts flow = false := by
  simp only [Registry.matching, List.filter_eq_nil_iff, Bool.not_eq_true]

/-- **What is selected after any run.** Nothing is selected if and only if no registry is loaded,
or no candidate takes the flow and there is no fallback. What is selected is the fallback or a
candidate that takes the flow; it is the fallback beside such a candidate only if that was
remembered. Where nothing that takes the flow is remembered, the only candidate that takes it is
selected. Afterwards what was selected is remembered for the flow's identity, or nothing if nothing
was, and all else is remembered as before. -/
theorem select_of_reachable {s : Selector} (reachable : s.Reachable) (flow : Flow)
    (scope : Scope) :
    ((s.select flow scope).1 = none ↔
      s.registry = none ∨ ∃ registry, s.registry = some registry ∧
        (∀ candidate ∈ registry.candidates, candidate.accepts flow = false) ∧
        registry.fallback = none) ∧
    (∀ proxy, (s.select flow scope).1 = some proxy → ∃ registry, s.registry = some registry ∧
      (registry.fallback = some proxy ∨
        proxy ∈ registry.candidates ∧ proxy.accepts flow = true) ∧
      (registry.fallback = some proxy →
        (∃ candidate ∈ registry.candidates, candidate.accepts flow = true) →
        s.affinity.find? (flow.identity scope) = some proxy)) ∧
    (∀ registry proxy, s.registry = some registry → proxy ∈ registry.candidates →
      proxy.accepts flow = true →
      (∀ other ∈ registry.candidates, other.accepts flow = true → other = proxy) →
      (∀ held, s.affinity.find? (flow.identity scope) = some held → held.accepts flow = false) →
      (s.select flow scope).1 = some proxy) ∧
    (s.select flow scope).2.affinity.find? (flow.identity scope) = (s.select flow scope).1 ∧
    ∀ identity, identity ≠ flow.identity scope →
      (s.select flow scope).2.affinity.find? identity = s.affinity.find? identity := by
  have sound := sound_of_reachable reachable
  refine ⟨?_, ?_, ?_, find?_select_self sound, fun _ ne => find?_select_of_ne ne⟩
  · cases loaded : s.registry with
    | none => simp only [select, loaded, true_or]
    | some registry =>
      rw [select_eq_none_iff loaded, matching_eq_nil_iff]
      constructor
      · rintro nothing
        exact Or.inr ⟨registry, rfl, nothing⟩
      · rintro (⟨⟨⟩⟩ | ⟨_, ⟨rfl⟩, nothing⟩)
        exact nothing
  · intro proxy selected
    cases loaded : s.registry with
    | none =>
      simp only [select, loaded] at selected
      cases selected
    | some registry =>
      refine ⟨registry, rfl, ?_, ?_⟩
      · exact (member_of_select loaded selected).imp_right Registry.mem_matching.1
      · rintro fallback ⟨candidate, mem, accepts⟩
        exact remembered_of_fallback_selected (sound.wellFormed registry loaded) loaded selected
          fallback (List.ne_nil_of_mem (Registry.mem_matching.2 ⟨mem, accepts⟩))
  · intro registry proxy loaded mem accepts only unusable
    obtain ⟨candidate, taken, selected⟩ := mem_matching_of_not_remembered loaded unusable
      (List.ne_nil_of_mem (Registry.mem_matching.2 ⟨mem, accepts⟩))
    obtain ⟨mem', accepts'⟩ := Registry.mem_matching.1 taken
    rw [selected, only candidate mem' accepts']

/-- The one candidate for a port, on a registry that was just loaded. -/
theorem select_of_reachable_after_reload :
    (((ofSeed 0).run [.reload (some ([{ name := ascii "p", rules := [.port 443] }], []))]).select
      { port := some 443 } .exchange).1 = some { name := ascii "p", rules := [.port 443] } := by
  obtain ⟨-, -, only, -⟩ := select_of_reachable
    ⟨0, [.reload (some ([{ name := ascii "p", rules := [.port 443] }], []))], rfl⟩
    { port := some 443 } .exchange
  refine only _ _ rfl (List.mem_singleton.2 rfl) rfl ?_ ?_
  · intro other mem _
    exact List.mem_singleton.1 mem
  · intro held found
    have forgotten := Cache.find?_clear (ofSeed 0).affinity
      (Flow.identity { port := some 443 } .exchange)
    cases forgotten.symm.trans found

end ProxyRouting.Selector
