import ProxyRouting.Proofs.Random.Uniformity
import ProxyRouting.Random.Weighted

/-!
# Where the roll of a weighted choice falls

The items of a weighted choice cover the numbers below the sum of their weights
(`itemAt?_isSome_iff`). The total of the program is a word, so it is that sum only as long as the
sum fits; then every roll below the total falls into an item, and the item that stands in for a roll
behind all of them is not needed (`exact_of_fits`).

The walk compares before it subtracts, so no subtraction goes below zero, whatever the weights.
-/

namespace ProxyRouting.Random

variable {α : Type} {weight : α → UInt64} {items : List α} {roll : UInt64}

/-! ### The total -/

/-- The sum of the weights, as a number that does not wrap around. -/
def span (weight : α → UInt64) : List α → Nat
  | [] => 0
  | item :: rest => (weight item).toNat + span weight rest

@[simp] theorem span_nil : span weight [] = 0 := rfl

@[simp] theorem span_cons (item : α) (rest : List α) :
    span weight (item :: rest) = (weight item).toNat + span weight rest := rfl

/-- The total weight is the sum of the weights if that fits a word. -/
theorem toNat_totalWeight (fits : span weight items < UInt64.size) :
    (totalWeight weight items).toNat = span weight items := by
  induction items with
  | nil => rfl
  | cons item rest ih =>
    rw [span_cons] at fits ⊢
    rw [totalWeight, UInt64.toNat_add, ih (by omega)]
    exact Nat.mod_eq_of_lt fits

/-! ### The walk -/

/-- The subtractions of the walk: for each item that is passed the roll, and the weight that is
taken from it. -/
def subtractions (weight : α → UInt64) : UInt64 → List α → List (UInt64 × UInt64)
  | _, [] => []
  | roll, item :: rest =>
    if roll < weight item then []
    else (roll, weight item) :: subtractions weight (roll - weight item) rest

/-- What is subtracted is never more than what is left of the roll. -/
theorem le_of_mem_subtractions {step : UInt64 × UInt64}
    (mem : step ∈ subtractions weight roll items) : step.2 ≤ step.1 := by
  induction items generalizing roll with
  | nil => cases mem
  | cons item rest ih =>
    rw [subtractions] at mem
    split at mem
    · cases mem
    · next passed =>
      rcases List.mem_cons.1 mem with rfl | later
      · exact UInt64.not_lt.1 passed
      · exact ih later

/-- A roll falls into some item exactly if it is below the sum of the weights. -/
theorem itemAt?_isSome_iff :
    (itemAt? weight roll items).isSome = true ↔ roll.toNat < span weight items := by
  induction items generalizing roll with
  | nil => simp [itemAt?]
  | cons first rest ih =>
    rw [itemAt?, span_cons]
    by_cases falls : roll < weight first
    · rw [if_pos falls]
      rw [UInt64.lt_iff_toNat_lt] at falls
      simp only [Option.isSome_some, true_iff]
      omega
    · rw [if_neg falls, ih]
      have le := UInt64.not_lt.1 falls
      rw [UInt64.toNat_sub_of_le _ _ le]
      rw [UInt64.le_iff_toNat_le] at le
      omega

/-! ### Items with the same weights -/

section Map

variable {β : Type} (f : α → β) {weight' : β → UInt64}

theorem totalWeight_map (same : ∀ item, weight' (f item) = weight item) (items : List α) :
    totalWeight weight' (items.map f) = totalWeight weight items := by
  induction items with
  | nil => rfl
  | cons item rest ih => rw [List.map_cons, totalWeight, ih, same, totalWeight]

theorem itemAt?_map (same : ∀ item, weight' (f item) = weight item) (roll : UInt64)
    (items : List α) :
    itemAt? weight' roll (items.map f) = (itemAt? weight roll items).map f := by
  induction items generalizing roll with
  | nil => rfl
  | cons item rest ih =>
    rw [List.map_cons, itemAt?, itemAt?, same]
    split
    · rfl
    · exact ih _

/-- A choice looks at nothing but the weights. -/
theorem choose_map (same : ∀ item, weight' (f item) = weight item) {items : List α}
    (h : items ≠ []) (h' : items.map f ≠ []) (g : MersenneTwister) :
    choose weight' (items.map f) h' g =
      (f (choose weight items h g).1, (choose weight items h g).2) := by
  simp only [choose, totalWeight_map f same, itemAt?_map f same, List.getLast_map,
    Option.getD_map]

end Map

/-! ### Choices in which nothing wraps around -/

/-- A weighted choice whose words stand for the numbers that are meant. -/
structure Exact (weight : α → UInt64) (items : List α) (roll : UInt64) : Prop where
  /-- There is something to choose from. -/
  several : 2 ≤ items.length
  /-- The total has not wrapped around. -/
  total : (totalWeight weight items).toNat = span weight items
  /-- One can be taken from it. -/
  two_le : 2 ≤ (totalWeight weight items).toNat
  /-- The roll is below it. -/
  roll_lt : roll < totalWeight weight items
  /-- No subtraction goes below zero. -/
  subtractions : ∀ step ∈ subtractions weight roll items, step.2 ≤ step.1
  /-- The roll falls into an item. -/
  falls : (itemAt? weight roll items).isSome = true

/-- A sum of weights of at least one is at least the number of items. -/
theorem length_le_span (positive : ∀ item ∈ items, 1 ≤ (weight item).toNat) :
    items.length ≤ span weight items := by
  induction items with
  | nil => exact Nat.le_refl 0
  | cons item rest ih =>
    obtain ⟨first, later⟩ := List.forall_mem_cons.1 positive
    rw [span_cons, List.length_cons]
    have := ih later
    omega

/-- A sum of bounded weights is at most the bound for each item. -/
theorem span_le {bound : Nat} (bounded : ∀ item ∈ items, (weight item).toNat ≤ bound) :
    span weight items ≤ items.length * bound := by
  induction items with
  | nil => simp
  | cons item rest ih =>
    obtain ⟨first, later⟩ := List.forall_mem_cons.1 bounded
    rw [span_cons, List.length_cons, Nat.succ_mul]
    have := ih later
    omega

/-- A choice among several items whose positive weights fit a word is exact. -/
theorem exact_of_fits (several : 2 ≤ items.length)
    (positive : ∀ item ∈ items, 1 ≤ (weight item).toNat) (fits : span weight items < UInt64.size)
    (g : MersenneTwister) :
    Exact weight items (uniform (totalWeight weight items) g).1 := by
  have total := toNat_totalWeight fits
  have two_le : 2 ≤ (totalWeight weight items).toNat := by
    rw [total]
    exact Nat.le_trans several (length_le_span positive)
  have pos : totalWeight weight items ≠ 0 := by
    intro zero
    rw [zero] at two_le
    exact absurd two_le (by decide)
  have roll_lt := uniform_lt pos g
  refine ⟨several, total, two_le, roll_lt, fun _ mem => le_of_mem_subtractions mem, ?_⟩
  rw [itemAt?_isSome_iff, ← total]
  exact UInt64.lt_iff_toNat_lt.1 roll_lt

end ProxyRouting.Random
