import Mathlib.Data.List.Nodup
import Mathlib.Tactic.SplitIfs
import ProxyRouting.Registry

/-!
# What a built registry is like

Building a registry goes through the proxies once. What comes of it can be told without that:
of the proxies with distinct names those that are no fallbacks are the candidates, and the last
of the others is the fallback (`build_eq`). So a built registry is `WellFormed`: a name belongs to
one of its proxies at most, and only the fallback takes every flow by its rule.
-/

namespace ProxyRouting.Registry

variable {registry : Registry} {proxy : Proxy}

/-! ### Distinct names -/

theorem name_not_seen {seen : List Bytes} {proxies : List Proxy}
    (mem : proxy ∈ distinct seen proxies) : proxy.name ∉ seen := by
  induction proxies generalizing seen with
  | nil => cases mem
  | cons first rest ih =>
    rw [distinct] at mem
    split_ifs at mem with known
    · exact ih mem
    · rcases List.mem_cons.1 mem with rfl | later
      · exact known
      · exact fun isSeen => ih later (List.mem_cons_of_mem _ isSeen)

theorem nodup_distinct (seen : List Bytes) (proxies : List Proxy) :
    ((distinct seen proxies).map (·.name)).Nodup := by
  induction proxies generalizing seen with
  | nil => exact List.nodup_nil
  | cons first rest ih =>
    rw [distinct]
    split_ifs
    · exact ih seen
    · refine List.nodup_cons.2 ⟨fun again => ?_, ih _⟩
      obtain ⟨other, mem, same⟩ := List.mem_map.1 again
      exact name_not_seen mem (same ▸ List.mem_cons_self)

/-! ### Building without the walk -/

theorem addAll_eq (registry : Registry) (seen : List Bytes) (proxies : List Proxy) :
    (registry.addAll seen proxies).1 =
      { registry with
        candidates := registry.candidates ++ (distinct seen proxies).filter (!·.isFallback)
        fallback :=
          ((distinct seen proxies).filter (·.isFallback)).getLast?.or registry.fallback } := by
  induction proxies generalizing registry seen with
  | nil => simp [addAll, distinct]
  | cons first rest ih =>
    rw [addAll, distinct]
    split_ifs
    · exact ih registry seen
    · cases isFallback : first.isFallback with
      | true =>
        simp only [add, isFallback, ih, if_true, List.filter_cons, Bool.not_true,
          Bool.false_eq_true, if_false]
        rw [List.getLast?_cons]
        cases ((distinct (first.name :: seen) rest).filter (·.isFallback)).getLast? <;> rfl
      | false =>
        simp only [add, isFallback, ih, Bool.false_eq_true, if_false, List.filter_cons,
          Bool.not_false, if_true, List.append_assoc, List.singleton_append]

/-- **What a registry is built of**: among the proxies with distinct names those that are no
fallbacks, and the last one that is. -/
theorem build_eq (proxies : List Proxy) (source : Bytes) :
    (build proxies source).1 =
      { source
        candidates := (distinct [] proxies).filter (!·.isFallback)
        fallback := ((distinct [] proxies).filter (·.isFallback)).getLast? } := by
  rw [build, addAll_eq]
  simp

/-! ### Well-formed registries -/

/-- The proxies are told apart by their names, and by whether they are fallbacks. -/
structure WellFormed (registry : Registry) : Prop where
  /-- No name belongs to two proxies. -/
  names_nodup : (registry.members.map (·.name)).Nodup
  /-- The candidates are no fallbacks. -/
  candidates : ∀ proxy ∈ registry.candidates, proxy.isFallback = false
  /-- The fallback is one. -/
  fallback : ∀ proxy, registry.fallback = some proxy → proxy.isFallback = true

theorem wellFormed_build (proxies : List Proxy) (source : Bytes) :
    (build proxies source).1.WellFormed := by
  have nodup := nodup_distinct [] proxies
  rw [build_eq]
  have isCandidate {proxy : Proxy} (mem : proxy ∈ (distinct [] proxies).filter (!·.isFallback)) :
      proxy ∈ distinct [] proxies ∧ proxy.isFallback = false := by
    simpa using mem
  have isFallback {proxy : Proxy}
      (last : ((distinct [] proxies).filter (·.isFallback)).getLast? = some proxy) :
      proxy ∈ distinct [] proxies ∧ proxy.isFallback = true := by
    simpa using List.mem_of_getLast? last
  refine ⟨?_, fun proxy mem => (isCandidate mem).2, fun proxy last => (isFallback last).2⟩
  simp only [members, List.map_append]
  refine List.nodup_append.2 ⟨(List.filter_sublist.map _).nodup nodup, ?_, ?_⟩
  · cases ((distinct [] proxies).filter (·.isFallback)).getLast? <;> simp
  · intro name ofCandidate name' ofFallback same
    obtain ⟨candidate, mem, rfl⟩ := List.mem_map.1 ofCandidate
    obtain ⟨last, mem', rfl⟩ := List.mem_map.1 ofFallback
    obtain ⟨memCandidate, notFallback⟩ := isCandidate mem
    obtain ⟨memLast, lastFallback⟩ := isFallback (Option.mem_toList.1 mem')
    obtain rfl := List.inj_on_of_nodup_map nodup memCandidate memLast same
    rw [notFallback] at lastFallback
    cases lastFallback

theorem mem_members : proxy ∈ registry.members ↔
    proxy ∈ registry.candidates ∨ registry.fallback = some proxy := by
  simp only [members, List.mem_append, Option.mem_toList]

theorem mem_distinct_of_mem_build {proxies : List Proxy} {source : Bytes}
    (mem : proxy ∈ (build proxies source).1.members) : proxy ∈ distinct [] proxies := by
  rw [build_eq, mem_members] at mem
  rcases mem with candidate | fallback
  · exact List.mem_of_mem_filter candidate
  · exact List.mem_of_mem_filter (List.mem_of_getLast? fallback)

theorem mem_of_find? {name : Bytes} (found : registry.find? name = some proxy) :
    proxy ∈ registry.members ∧ proxy.name = name := by
  rw [find?] at found
  have named := List.find?_some found
  exact ⟨List.mem_of_find?_eq_some found, of_decide_eq_true named⟩

/-- A proxy of a well-formed registry is found by its name. -/
theorem WellFormed.find?_name (wellFormed : registry.WellFormed) (mem : proxy ∈ registry.members) :
    registry.find? proxy.name = some proxy := by
  cases found : registry.find? proxy.name with
  | none =>
    have differs := List.find?_eq_none.1 found proxy mem
    exact absurd (decide_eq_true rfl) differs
  | some other =>
    obtain ⟨mem', same⟩ := mem_of_find? found
    rw [List.inj_on_of_nodup_map wellFormed.names_nodup mem' mem same]

end ProxyRouting.Registry
