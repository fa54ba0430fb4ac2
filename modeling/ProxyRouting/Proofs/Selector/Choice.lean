import ProxyRouting.Proofs.Registry.Build
import ProxyRouting.Selector

/-!
# What is chosen

A weighted choice gives one of the items, whatever the weights are and even where the total
wraps around. So the proxy chosen for a flow of which nothing is remembered is a candidate
that takes the flow if there is one, and otherwise the fallback.
-/

namespace ProxyRouting

namespace Random

variable {α : Type} {weight : α → UInt64}

theorem mem_of_itemAt? {roll : UInt64} {items : List α} {item : α}
    (found : itemAt? weight roll items = some item) : item ∈ items := by
  induction items generalizing roll with
  | nil => cases found
  | cons first rest ih =>
    rw [itemAt?] at found
    split at found
    · cases found
      exact List.mem_cons_self
    · exact List.mem_cons_of_mem _ (ih found)

/-- A weighted choice is one of the items. -/
theorem choose_mem (items : List α) (h : items ≠ []) (g : MersenneTwister) :
    (choose weight items h g).1 ∈ items := by
  simp only [choose]
  cases found : itemAt? weight (uniform (totalWeight weight items) g).1 items with
  | none => exact List.getLast_mem h
  | some item => exact mem_of_itemAt? found

end Random

namespace Registry

variable {registry : Registry} {flow : Flow} {proxy : Proxy}

theorem mem_matching : proxy ∈ registry.matching flow ↔
    proxy ∈ registry.candidates ∧ proxy.accepts flow = true :=
  List.mem_filter

/-- The choice is a candidate that takes the flow. If there is none, it is the fallback. -/
theorem choose_cases (registry : Registry) (flow : Flow) (g : Random.MersenneTwister) :
    (registry.matching flow = [] ∧ (registry.choose flow g).1 = registry.fallback) ∨
      ∃ proxy ∈ registry.matching flow, (registry.choose flow g).1 = some proxy := by
  unfold choose
  split
  · next none => exact Or.inl ⟨none, rfl⟩
  · next only one => exact Or.inr ⟨only, by rw [one]; exact List.mem_singleton.2 rfl, rfl⟩
  · next first second rest several =>
    rw [several]
    exact Or.inr ⟨_, Random.choose_mem _ (by simp) g, rfl⟩

/-- Where one candidate takes the flow at most, there is one choice and nothing is drawn. -/
theorem choose_of_few (few : (registry.matching flow).length ≤ 1) (g : Random.MersenneTwister) :
    registry.choose flow g = ((registry.matching flow).head?.or registry.fallback, g) := by
  unfold choose
  split
  · next none => rw [none, List.head?_nil, Option.none_or]
  · next only one => rw [one, List.head?_cons, Option.some_or]
  · next first second rest several =>
    rw [several] at few
    simp only [List.length_cons] at few
    omega

/-- A choice is one of the proxies of the registry. -/
theorem mem_members_of_choose {g : Random.MersenneTwister}
    (chosen : (registry.choose flow g).1 = some proxy) : proxy ∈ registry.members := by
  rcases registry.choose_cases flow g with ⟨-, eq⟩ | ⟨candidate, mem, eq⟩
  · exact mem_members.2 (Or.inr (eq.symm.trans chosen))
  · cases eq.symm.trans chosen
    exact mem_members.2 (Or.inl (mem_matching.1 mem).1)

end Registry

end ProxyRouting
