import Mathlib.Algebra.BigOperators.Group.Finset.Basic
import Mathlib.Algebra.Order.Floor.Div
import Mathlib.Data.FinEnum
import Mathlib.Order.Interval.Finset.Nat
import ProxyRouting.Random.Uniform

/-!
# Every number below a bound has the same count

An output stands for the high half of its product with the bound, which is below the bound whatever
the output is (`uniform_lt`). So the outputs of one number are consecutive words, and there are
either `2⁶⁴ / bound` of them, rounded down, or one more. The threshold is the remainder of this
division: rejecting the products with a smaller low half takes the surplus away, and exactly as many
outputs as the quotient says are kept for each number (`card_outputsOf`).
-/

namespace ProxyRouting.Random

variable {bound output number : UInt64}

/-! ### The words as numbers -/

theorem toNat_pos (pos : bound ≠ 0) : 0 < bound.toNat :=
  Nat.pos_of_ne_zero fun zero => pos (UInt64.toNat_inj.1 zero)

theorem toNat_highProduct (output bound : UInt64) :
    (highProduct output bound).toNat = output.toNat * bound.toNat / UInt64.size := by
  rw [highProduct]
  apply UInt64.toNat_ofNat_of_lt'
  apply Nat.div_lt_of_lt_mul
  exact Nat.mul_lt_mul'' output.toNat_lt_size bound.toNat_lt_size

/-- The high half of a product with a bound is below the bound. -/
theorem highProduct_lt (pos : bound ≠ 0) (output : UInt64) : highProduct output bound < bound := by
  rw [UInt64.lt_iff_toNat_lt, toNat_highProduct]
  apply Nat.div_lt_of_lt_mul
  exact Nat.mul_lt_mul_of_pos_right output.toNat_lt_size (toNat_pos pos)

/-- The threshold is the remainder of the number of all words by the bound. -/
theorem toNat_threshold (pos : bound ≠ 0) :
    (threshold bound).toNat = UInt64.size % bound.toNat := by
  have := toNat_pos pos
  have negated : (0 - bound).toNat = UInt64.size - bound.toNat := by
    rw [UInt64.toNat_sub]
    exact Nat.mod_eq_of_lt (by simp; omega)
  rw [threshold, UInt64.toNat_mod, negated]
  exact (Nat.mod_eq_sub_mod bound.toNat_lt_size.le).symm

theorem lt_threshold_iff (pos : bound ≠ 0) :
    output * bound < threshold bound ↔
      output.toNat * bound.toNat % UInt64.size < UInt64.size % bound.toNat := by
  rw [UInt64.lt_iff_toNat_lt, UInt64.toNat_mul, toNat_threshold pos]

/-- An output is kept for a number if its product with the bound lies in the number's part of the
products, behind a gap as long as the threshold. -/
theorem below?_eq_some_iff (pos : bound ≠ 0) :
    below? bound output = some number ↔
      UInt64.size * number.toNat + UInt64.size % bound.toNat ≤ bound.toNat * output.toNat ∧
        bound.toNat * output.toNat < UInt64.size * (number.toNat + 1) := by
  have high := toNat_highProduct output bound
  rw [Nat.mul_comm bound.toNat output.toNat, below?]
  split_ifs with rejected
  · rw [lt_threshold_iff pos] at rejected
    simp only [UInt64.size] at rejected ⊢
    simp only [false_iff, not_and, Nat.not_lt]
    intro above
    omega
  · rw [lt_threshold_iff pos] at rejected
    rw [Option.some_inj, ← UInt64.toNat_inj, high]
    simp only [UInt64.size] at rejected ⊢
    constructor
    · intro same
      omega
    · rintro ⟨above, below⟩
      omega

/-! ### What is drawn -/

theorem lt_of_below? (pos : bound ≠ 0) (kept : below? bound output = some number) :
    number < bound := by
  rw [below?] at kept
  split_ifs at kept
  obtain rfl := Option.some.inj kept
  exact highProduct_lt pos output

theorem firstBelow_lt (pos : bound ≠ 0) (attempts : Nat) (g : MersenneTwister) :
    (firstBelow bound attempts g).1 < bound := by
  induction attempts generalizing g with
  | zero => exact highProduct_lt pos g.next.1
  | succ attempts ih =>
    rw [firstBelow]
    dsimp only
    split
    · next number kept => exact lt_of_below? pos kept
    · exact ih g.next.2

/-- A uniform number below a bound is below it. -/
theorem uniform_lt (pos : bound ≠ 0) (g : MersenneTwister) : (uniform bound g).1 < bound := by
  rw [uniform, if_neg pos]
  exact firstBelow_lt pos maxAttempts g

/-- A draw whose first output is kept gives the number of this output. -/
theorem uniform_of_below? (pos : bound ≠ 0) {g : MersenneTwister}
    (kept : below? bound g.next.1 = some number) : uniform bound g = (number, g.next.2) := by
  have attempts : maxAttempts = 4294967295 + 1 := rfl
  rw [uniform, if_neg pos, attempts, firstBelow]
  simp only [kept]

/-! ### Counting -/

/-- As many multiples as fit lie in an interval whose length is a multiple. -/
theorem multiple_mem_iff {step start count x : Nat} (pos : 0 < step) :
    start ≤ step * x ∧ step * x < start + step * count ↔
      start ⌈/⌉ step ≤ x ∧ x < start ⌈/⌉ step + count := by
  rw [ceilDiv_le_iff_le_mul pos]
  apply and_congr_right
  intro _
  by_cases small : x < count
  · have : step * x < step * count := Nat.mul_lt_mul_of_pos_left small pos
    exact iff_of_true (by omega) (by omega)
  · obtain ⟨y, rfl⟩ := Nat.exists_eq_add_of_le (Nat.not_lt.1 small)
    have before : step * y < start ↔ y < start ⌈/⌉ step := by
      rw [← Nat.not_le, ← Nat.not_le, ceilDiv_le_iff_le_mul pos]
    rw [Nat.mul_add]
    omega

/-- The outputs that are kept for a number. -/
def outputsOf (bound number : UInt64) : Finset UInt64 :=
  Finset.univ.filter fun output => below? bound output = some number

theorem mem_outputsOf : output ∈ outputsOf bound number ↔ below? bound output = some number := by
  rw [outputsOf, Finset.mem_filter]
  exact and_iff_right (Finset.mem_univ output)

/-- **Each number below the bound has the same count** of outputs that are kept for it. -/
theorem card_outputsOf (lt : number < bound) :
    (outputsOf bound number).card = UInt64.size / bound.toNat := by
  have lt' : number.toNat < bound.toNat := UInt64.lt_iff_toNat_lt.1 lt
  have pos : bound ≠ 0 := by
    rintro rfl
    simp at lt'
  have whole := Nat.mod_add_div UInt64.size bound.toNat
  let start := UInt64.size * number.toNat + UInt64.size % bound.toNat
  -- The next number's part starts as many steps later as fit into all words.
  have next : UInt64.size * (number.toNat + 1) =
      start + bound.toNat * (UInt64.size / bound.toNat) := by
    rw [Nat.mul_add, Nat.mul_one, Nat.add_assoc, whole]
  have mem_iff (output : UInt64) : output ∈ outputsOf bound number ↔
      output.toNat ∈ Finset.Ico (start ⌈/⌉ bound.toNat)
        (start ⌈/⌉ bound.toNat + UInt64.size / bound.toNat) := by
    rw [mem_outputsOf, below?_eq_some_iff pos, next, multiple_mem_iff (toNat_pos pos),
      Finset.mem_Ico]
  have card := Finset.card_bij (fun (output : UInt64) _ => output.toNat)
    (fun output mem => (mem_iff output).1 mem)
    (fun _ _ _ _ same => UInt64.toNat_inj.1 same) ?_
  · rw [card, Nat.card_Ico, Nat.add_sub_cancel_left]
  · -- No word is missing: what is kept for a number below the bound is a word.
    intro x mem
    have below : bound.toNat * x < UInt64.size * (number.toNat + 1) := by
      rw [next]
      exact ((multiple_mem_iff (toNat_pos pos)).2 (Finset.mem_Ico.1 mem)).2
    have isWord : x < UInt64.size := by
      apply Nat.lt_of_mul_lt_mul_left (a := bound.toNat)
      calc bound.toNat * x < UInt64.size * (number.toNat + 1) := below
        _ ≤ UInt64.size * bound.toNat := Nat.mul_le_mul_left _ lt'
        _ = bound.toNat * UInt64.size := Nat.mul_comm _ _
    have same : (UInt64.ofNat x).toNat = x := UInt64.toNat_ofNat_of_lt' isWord
    refine ⟨UInt64.ofNat x, (mem_iff _).2 ?_, same⟩
    rw [same]
    exact mem

/-- Some numbers below the bound have so many times that count together. -/
theorem card_biUnion_outputsOf {numbers : Finset Nat} (below : ∀ r ∈ numbers, r < bound.toNat) :
    (numbers.biUnion fun r => outputsOf bound (UInt64.ofNat r)).card =
      numbers.card * (UInt64.size / bound.toNat) := by
  have toNat_ofNat (r : Nat) (mem : r ∈ numbers) : (UInt64.ofNat r).toNat = r :=
    UInt64.toNat_ofNat_of_lt' (Nat.lt_trans (below r mem) bound.toNat_lt_size)
  rw [Finset.card_biUnion]
  · apply Finset.sum_const_nat
    intro r mem
    apply card_outputsOf
    rw [UInt64.lt_iff_toNat_lt, toNat_ofNat r mem]
    exact below r mem
  · intro r mem r' mem' ne
    apply Finset.disjoint_left.2
    intro output of of'
    rw [mem_outputsOf] at of of'
    have same := congrArg UInt64.toNat (Option.some.inj (of.symm.trans of'))
    rw [toNat_ofNat r mem, toNat_ofNat r' mem'] at same
    exact ne same

/-- The outputs that are kept. -/
def keptOutputs (bound : UInt64) : Finset UInt64 :=
  Finset.univ.filter fun output => (below? bound output).isSome

theorem card_keptOutputs (pos : bound ≠ 0) :
    (keptOutputs bound).card = bound.toNat * (UInt64.size / bound.toNat) := by
  have all : keptOutputs bound =
      (Finset.range bound.toNat).biUnion fun r => outputsOf bound (UInt64.ofNat r) := by
    ext output
    simp only [keptOutputs, Finset.mem_filter, Finset.mem_univ, true_and, Finset.mem_biUnion,
      Finset.mem_range, mem_outputsOf, Option.isSome_iff_exists]
    constructor
    · rintro ⟨number, kept⟩
      exact ⟨number.toNat, UInt64.lt_iff_toNat_lt.1 (lt_of_below? pos kept),
        by rw [UInt64.ofNat_toNat, kept]⟩
    · rintro ⟨r, -, kept⟩
      exact ⟨_, kept⟩
  rw [all, card_biUnion_outputsOf fun r => Finset.mem_range.1, Finset.card_range]

end ProxyRouting.Random
