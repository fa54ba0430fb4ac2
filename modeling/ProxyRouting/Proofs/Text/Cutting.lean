import Mathlib.Data.List.Basic
import ProxyRouting.Bytes

/-!
# Cutting at a separator

A text is cut at a longer separator where the separator occurs first: no other occurrence has
less before it (`cutText?_eq_some_iff`). If it does not occur at all, there is nothing to cut at
(`cutText?_eq_none_iff`). An occurrence is the first one if its first byte is not before it
(`cutText?_of_not_mem`).

Cut at every occurrence of a byte, a text falls into the pieces before one of them and those behind
it (`splitOn_append_cons`).
-/

namespace ProxyRouting

variable {separator text before after : Bytes}

theorem isPrefixOf?_eq_none_iff :
    separator.isPrefixOf? text = none ↔ ∀ rest, text ≠ separator ++ rest := by
  rw [Option.eq_none_iff_forall_ne_some]
  apply forall_congr'
  intro rest
  rw [Ne, List.isPrefixOf?_eq_some_iff_append_eq, eq_comm]

theorem cutText?_eq_none_iff :
    cutText? separator text = none ↔ ∀ before after, text ≠ before ++ separator ++ after := by
  induction text with
  | nil =>
    rw [cutText?, Option.map_eq_none_iff, isPrefixOf?_eq_none_iff]
    constructor
    · intro nowhere before after eq
      obtain ⟨rfl, rfl, rfl⟩ : before = [] ∧ separator = [] ∧ after = [] := by simpa using eq.symm
      exact nowhere [] rfl
    · intro nowhere rest eq
      exact nowhere [] rest eq
  | cons x text ih =>
    rw [cutText?]
    cases found : separator.isPrefixOf? (x :: text) with
    | some rest =>
      have here := List.isPrefixOf?_eq_some_iff_append_eq.1 found
      simp only [reduceCtorEq, false_iff, not_forall, ne_eq, Decidable.not_not]
      exact ⟨[], rest, here.symm⟩
    | none =>
      simp only [Option.map_eq_none_iff, ih]
      constructor
      · rintro later (_ | ⟨y, before⟩) after eq
        · exact isPrefixOf?_eq_none_iff.1 found after eq
        · exact later before after (List.cons.inj eq).2
      · intro nowhere before after eq
        exact nowhere (x :: before) after (by rw [eq]; rfl)

/-- The cut is at the first occurrence of the separator. -/
theorem cutText?_eq_some_iff :
    cutText? separator text = some (before, after) ↔
      text = before ++ separator ++ after ∧
        ∀ skipped rest, text = skipped ++ separator ++ rest → before.length ≤ skipped.length := by
  induction text generalizing before with
  | nil =>
    rw [cutText?, Option.map_eq_some_iff]
    constructor
    · rintro ⟨rest, found, eq⟩
      cases eq
      exact ⟨(List.isPrefixOf?_eq_some_iff_append_eq.1 found).symm, fun _ _ _ => Nat.zero_le _⟩
    · rintro ⟨eq, -⟩
      obtain ⟨rfl, rfl, rfl⟩ : before = [] ∧ separator = [] ∧ after = [] := by simpa using eq.symm
      exact ⟨[], rfl, rfl⟩
  | cons x text ih =>
    rw [cutText?]
    cases found : separator.isPrefixOf? (x :: text) with
    | some rest =>
      have here := List.isPrefixOf?_eq_some_iff_append_eq.1 found
      simp only [Option.some.injEq, Prod.mk.injEq]
      constructor
      · rintro ⟨rfl, rfl⟩
        exact ⟨here.symm, fun _ _ _ => Nat.zero_le _⟩
      · rintro ⟨eq, first⟩
        -- The separator stands at the very beginning, so nothing is before its first occurrence.
        have short := first [] rest here.symm
        obtain rfl : before = [] := List.eq_nil_of_length_eq_zero (Nat.le_zero.1 short)
        exact ⟨rfl, List.append_cancel_left (here.trans eq)⟩
    | none =>
      have notHere := isPrefixOf?_eq_none_iff.1 found
      simp only [Option.map_eq_some_iff, Prod.exists, Prod.mk.injEq]
      constructor
      · rintro ⟨before, after, cut, rfl, rfl⟩
        obtain ⟨eq, first⟩ := ih.1 cut
        refine ⟨by rw [eq]; rfl, ?_⟩
        rintro (_ | ⟨y, skipped⟩) rest other
        · exact absurd other (notHere rest)
        · have := first skipped rest (List.cons.inj other).2
          simpa using this
      · rintro ⟨eq, first⟩
        cases before with
        | nil => exact absurd eq (notHere after)
        | cons y before =>
          obtain ⟨rfl, tails⟩ : x = y ∧ text = before ++ separator ++ after := List.cons.inj eq
          refine ⟨before, after, ih.2 ⟨tails, fun skipped rest other => ?_⟩, rfl, rfl⟩
          have := first (x :: skipped) rest (by rw [other]; rfl)
          simpa using this

theorem cutText?_of_not_mem {b : UInt8} (notBefore : b ∉ before) :
    cutText? (b :: separator) (before ++ b :: separator ++ after) = some (before, after) := by
  refine cutText?_eq_some_iff.2 ⟨rfl, fun skipped rest other => Nat.le_of_not_lt fun shorter => ?_⟩
  -- The other occurrence would begin within `before`.
  have inside : before[skipped.length]? = some b := by
    have byte := congrArg (·[skipped.length]?) other
    simpa [List.getElem?_append_left shorter] using byte
  exact notBefore (List.mem_of_getElem? inside)

theorem splitOn_append_cons (b : UInt8) (before after : Bytes) :
    (before ++ b :: after).splitOn b = before.splitOn b ++ after.splitOn b := by
  unfold List.splitOn
  exact List.splitOnP_append_cons before after (beq_self_eq_true b)

end ProxyRouting
