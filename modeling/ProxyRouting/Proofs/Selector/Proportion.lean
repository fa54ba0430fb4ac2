import Mathlib.Algebra.Field.Rat
import ProxyRouting.Proofs.Random.Uniformity
import ProxyRouting.Proofs.Selector.Drawing

/-!
# Choices in proportion to the weights

A candidate takes up as many of the numbers below the total weight as its weight says, and each of
these numbers has the same count of outputs that are kept. So of the outputs that are kept
on the first draw a candidate gets exactly its share (`choice_is_proportional`): no
candidate gains by its place, by rounding, or by standing in for a roll behind all of them.

Candidates are told apart by their place in the list, as two of them may look the same.
-/

namespace ProxyRouting

namespace Random

variable {α : Type} {weight : α → UInt64} {items : List α} {roll : UInt64} {i : Nat}

/-! ### Places -/

/-- The place of the item that a roll falls into. -/
def placeAt? (weight : α → UInt64) : UInt64 → List α → Option Nat
  | _, [] => none
  | roll, item :: rest =>
    if roll < weight item then some 0 else (placeAt? weight (roll - weight item) rest).map (· + 1)

theorem itemAt?_eq_placeAt? (weight : α → UInt64) (roll : UInt64) (items : List α) :
    itemAt? weight roll items = (placeAt? weight roll items).bind (items[·]?) := by
  induction items generalizing roll with
  | nil => rfl
  | cons item rest ih =>
    rw [itemAt?, placeAt?]
    split_ifs
    · rfl
    · rw [ih, Option.bind_map]
      rfl

/-- A roll falls into the item at a place if the weights before it do not exceed the roll, and
those up to it do. -/
theorem placeAt?_eq_some_iff :
    placeAt? weight roll items = some i ↔
      span weight (items.take i) ≤ roll.toNat ∧ roll.toNat < span weight (items.take (i + 1)) := by
  induction items generalizing roll i with
  | nil => simp [placeAt?]
  | cons item rest ih =>
    rw [placeAt?]
    by_cases falls : roll < weight item
    · rw [if_pos falls]
      rw [UInt64.lt_iff_toNat_lt] at falls
      cases i with
      | zero => simp [falls]
      | succ i =>
        simp only [Option.some.injEq, List.take_succ_cons, span_cons]
        omega
    · rw [if_neg falls]
      have le := UInt64.not_lt.1 falls
      have taken := UInt64.toNat_sub_of_le _ _ le
      rw [UInt64.le_iff_toNat_le] at le
      cases i with
      | zero => simp [le]
      | succ i =>
        simp only [Option.map_eq_some_iff, Nat.add_right_cancel_iff, exists_eq_right,
          List.take_succ_cons, span_cons, ih, taken]
        omega

theorem lt_length_of_placeAt? (falls : placeAt? weight roll items = some i) : i < items.length := by
  obtain ⟨above, below⟩ := placeAt?_eq_some_iff.1 falls
  by_contra beyond
  rw [List.take_of_length_le (by omega)] at above below
  omega

theorem span_append (one two : List α) :
    span weight (one ++ two) = span weight one + span weight two := by
  induction one with
  | nil => simp
  | cons item rest ih => rw [List.cons_append, span_cons, span_cons, ih, Nat.add_assoc]

theorem span_take_succ (lt : i < items.length) :
    span weight (items.take (i + 1)) = span weight (items.take i) + (weight items[i]).toNat := by
  rw [List.take_succ_eq_append_getElem lt, span_append, span_cons, span_nil, Nat.add_zero]

theorem span_take_le (weight : α → UInt64) (items : List α) (i : Nat) :
    span weight (items.take i) ≤ span weight items := by
  have whole : span weight (items.take i ++ items.drop i) =
      span weight (items.take i) + span weight (items.drop i) := span_append _ _
  rw [List.take_append_drop] at whole
  omega

/-- A roll that falls into an item finds a weight there. -/
theorem weight_pos_of_placeAt? (falls : placeAt? weight roll items = some i)
    (lt : i < items.length) : 0 < (weight items[i]).toNat := by
  obtain ⟨above, below⟩ := placeAt?_eq_some_iff.1 falls
  rw [span_take_succ lt] at below
  omega

/-! ### The outputs of an item -/

/-- The place of the item that an output leads to, if the output is kept. -/
def placeOf? (weight : α → UInt64) (items : List α) (output : UInt64) : Option Nat :=
  (below? (totalWeight weight items) output).bind (placeAt? weight · items)

/-- The outputs that are kept and lead to the item at a place. -/
def outputsTo (weight : α → UInt64) (items : List α) (i : Nat) : Finset UInt64 :=
  Finset.univ.filter fun output => placeOf? weight items output = some i

theorem mem_outputsTo {output : UInt64} :
    output ∈ outputsTo weight items i ↔
      ∃ roll, below? (totalWeight weight items) output = some roll ∧
        placeAt? weight roll items = some i := by
  rw [outputsTo, Finset.mem_filter, placeOf?, Option.bind_eq_some_iff]
  exact and_iff_right (Finset.mem_univ output)

/-- The outputs of an item are those of the numbers that it takes up. -/
theorem outputsTo_eq (fits : span weight items < UInt64.size) :
    outputsTo weight items i =
      (Finset.Ico (span weight (items.take i)) (span weight (items.take (i + 1)))).biUnion
        fun r => outputsOf (totalWeight weight items) (UInt64.ofNat r) := by
  ext output
  simp only [mem_outputsTo, Finset.mem_biUnion, Finset.mem_Ico, mem_outputsOf]
  constructor
  · rintro ⟨roll, kept, falls⟩
    exact ⟨roll.toNat, placeAt?_eq_some_iff.1 falls, by rw [UInt64.ofNat_toNat, kept]⟩
  · rintro ⟨r, within, kept⟩
    have isWord : r < UInt64.size := by
      have := span_take_le weight items (i + 1)
      omega
    refine ⟨UInt64.ofNat r, kept, placeAt?_eq_some_iff.2 ?_⟩
    rw [UInt64.toNat_ofNat_of_lt' isWord]
    exact within

theorem card_outputsTo (fits : span weight items < UInt64.size) (lt : i < items.length) :
    (outputsTo weight items i).card =
      (weight items[i]).toNat * (UInt64.size / span weight items) := by
  rw [outputsTo_eq fits, card_biUnion_outputsOf, Nat.card_Ico, span_take_succ lt,
    Nat.add_sub_cancel_left, toNat_totalWeight fits]
  intro r mem
  have below := (Finset.mem_Ico.1 mem).2
  rw [toNat_totalWeight fits]
  exact Nat.lt_of_lt_of_le below (span_take_le weight items (i + 1))

end Random

namespace Registry

variable {registry : Registry} {flow : Flow} {g : Random.MersenneTwister} {i : Nat}

/-- The candidate at the place is chosen that the roll falls into. -/
theorem choose_of_placeAt? (several : 2 ≤ (registry.matching flow).length)
    (falls : Random.placeAt? Proxy.share (registry.roll flow g).1 (registry.matching flow) = some i)
    (lt : i < (registry.matching flow).length) :
    registry.choose flow g = (some (registry.matching flow)[i], (registry.roll flow g).2) := by
  have item : Random.itemAt? Proxy.share (registry.roll flow g).1 (registry.matching flow) =
      some (registry.matching flow)[i] := by
    rw [Random.itemAt?_eq_placeAt?, falls, Option.bind_some, List.getElem?_eq_getElem lt]
  rw [choose_of_several several (by rw [item, Option.isSome_some]), item]

/-- **Choices are proportional to the weights.** Let several candidates take a flow, with weights
whose sum is positive and fits a word. Of the 2⁶⁴ possible outputs, the weight of a candidate times
the whole quotient of 2⁶⁴ by the sum are kept on the first draw and lead to the candidate, so its
share in the outputs that are kept is its weight over the sum. Wherever the generator
stands, and however many outputs are rejected before one is kept, the walk finds the candidate that
the roll falls into, and that is never one of weight zero. -/
theorem choice_is_proportional (registry : Registry) (flow : Flow)
    (several : 2 ≤ (registry.matching flow).length)
    (positive : 1 ≤ Random.span Proxy.share (registry.matching flow))
    (fits : Random.span Proxy.share (registry.matching flow) < UInt64.size) :
    let candidates := registry.matching flow
    let total := Random.span Proxy.share candidates
    let kept := Random.keptOutputs (Random.totalWeight Proxy.share candidates)
    (∀ i (lt : i < candidates.length),
      let outputs := Random.outputsTo Proxy.share candidates i
      outputs.card = candidates[i].weight.toNat * (UInt64.size / total) ∧
      (outputs.card / kept.card : ℚ) = candidates[i].weight.toNat / total ∧
      ∀ g : Random.MersenneTwister, g.next.1 ∈ outputs →
        registry.choose flow g = (some candidates[i], g.next.2)) ∧
    ∀ g, ∃ i, ∃ lt : i < candidates.length,
      Random.placeAt? Proxy.share (registry.roll flow g).1 candidates = some i ∧
      0 < candidates[i].weight.toNat ∧
      registry.choose flow g = (some candidates[i], (registry.roll flow g).2) := by
  intro candidates total kept
  have toNat_total : (Random.totalWeight Proxy.share candidates).toNat = total :=
    Random.toNat_totalWeight fits
  have pos : Random.totalWeight Proxy.share candidates ≠ 0 := by
    intro zero
    rw [zero, UInt64.toNat_zero] at toNat_total
    have : 1 ≤ total := positive
    omega
  have kept_card : kept.card = total * (UInt64.size / total) := by
    rw [Random.card_keptOutputs pos, toNat_total]
  have share_pos : 0 < UInt64.size / total := Nat.div_pos fits.le positive
  refine ⟨fun i lt => ?_, fun g => ?_⟩
  · intro outputs
    have card : outputs.card = candidates[i].weight.toNat * (UInt64.size / total) := by
      rw [Random.card_outputsTo fits lt, UInt32.toNat_toUInt64]
    refine ⟨card, ?_, fun g leads => ?_⟩
    · rw [card, kept_card, Nat.cast_mul, Nat.cast_mul]
      exact mul_div_mul_right _ _ (Nat.cast_ne_zero.2 share_pos.ne')
    · obtain ⟨roll, isKept, falls⟩ := Random.mem_outputsTo.1 leads
      have drawn : registry.roll flow g = (roll, g.next.2) := Random.uniform_of_below? pos isKept
      have chosen := registry.choose_of_placeAt? several (g := g) (i := i) (by rw [drawn, falls]) lt
      rw [chosen, drawn]
  · have lt_total : (registry.roll flow g).1.toNat < total := by
      rw [← toNat_total]
      exact UInt64.lt_iff_toNat_lt.1 (Random.uniform_lt pos g)
    have falls := Random.itemAt?_isSome_iff.2 lt_total
    rw [Random.itemAt?_eq_placeAt?, Option.isSome_iff_exists] at falls
    obtain ⟨proxy, falls⟩ := falls
    obtain ⟨i, falls, -⟩ := Option.bind_eq_some_iff.1 falls
    have lt := Random.lt_length_of_placeAt? falls
    have weight_pos := Random.weight_pos_of_placeAt? falls lt
    rw [UInt32.toNat_toUInt64] at weight_pos
    exact ⟨i, lt, falls, weight_pos, choose_of_placeAt? several falls lt⟩

/-- Of three candidates, of which the second has no weight, the last one gets two thirds of the
outputs that are kept. -/
theorem choice_is_proportional_to_two_thirds :
    let one : Proxy := { name := ascii "p", weight := 1, rules := [.port 80] }
    let registry : Registry :=
      { source := [], candidates := [one, { one with weight := 0 }, { one with weight := 2 }] }
    let candidates := registry.matching { port := some 80 }
    let outputs := Random.outputsTo Proxy.share candidates 2
    outputs.card = 2 * (UInt64.size / 3) ∧
      (outputs.card / (Random.keptOutputs 3).card : ℚ) = 2 / 3 := by
  intro one registry candidates outputs
  obtain ⟨shares, -⟩ := choice_is_proportional registry { port := some 80 } (by decide) (by decide)
    (by decide)
  obtain ⟨count, ratio, -⟩ := shares 2 (by decide)
  exact ⟨count, ratio⟩

end Registry

end ProxyRouting
