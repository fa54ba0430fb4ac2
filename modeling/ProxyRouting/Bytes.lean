/-!
# Byte strings

Names, hosts, passwords and messages are strings of bytes: nothing that the
program reads has to be UTF-8. A byte string is a list, so that functions on it
recurse on the data; texts of the program's own are written with `ascii`.

The three cuts split a string at the first byte of a kind, at the last one, and
at the first occurrence of a longer separator. Each gives the two parts without
the separator, and `none` when there is nothing to cut at.

The byte zero ends a text that is handed to the system as a path or to be read as an
address, and the text of an error; `untilNul` is what is left of such a text.
-/

namespace ProxyRouting

/-- A string of bytes. -/
abbrev Bytes := List UInt8

/-- The bytes of a text that holds ASCII characters only. -/
def ascii (text : String) : Bytes := text.toList.map Char.toUInt8

/-! ### Bytes with a meaning of their own -/

@[match_pattern] abbrev nul : UInt8 := 0x00
@[match_pattern] abbrev numberSign : UInt8 := 0x23
@[match_pattern] abbrev percentSign : UInt8 := 0x25
@[match_pattern] abbrev asterisk : UInt8 := 0x2A
@[match_pattern] abbrev plusSign : UInt8 := 0x2B
@[match_pattern] abbrev minusSign : UInt8 := 0x2D
@[match_pattern] abbrev fullStop : UInt8 := 0x2E
@[match_pattern] abbrev slash : UInt8 := 0x2F
@[match_pattern] abbrev colon : UInt8 := 0x3A
@[match_pattern] abbrev equalsSign : UInt8 := 0x3D
@[match_pattern] abbrev questionMark : UInt8 := 0x3F
@[match_pattern] abbrev atSign : UInt8 := 0x40
@[match_pattern] abbrev openBracket : UInt8 := 0x5B
@[match_pattern] abbrev closeBracket : UInt8 := 0x5D

/-! ### Letter case -/

/-- A capital ASCII letter becomes small; every other byte stays as it is. -/
def lowerByte (b : UInt8) : UInt8 :=
  if 0x41 ≤ b ∧ b ≤ 0x5A then b + 0x20 else b

/-- The text with its capital ASCII letters made small. -/
def lower (text : Bytes) : Bytes := text.map lowerByte

/-! ### Cutting -/

/-- The bytes before the first zero byte, all of them if there is none. -/
def untilNul (text : Bytes) : Bytes := text.takeWhile (· != nul)

/-- The parts before and after the first `b`. -/
def cutFirst? (b : UInt8) : Bytes → Option (Bytes × Bytes)
  | [] => none
  | x :: rest =>
    if x = b then some ([], rest)
    else (cutFirst? b rest).map fun (before, after) => (x :: before, after)

/-- The parts before and after the last `b`. -/
def cutLast? (b : UInt8) : Bytes → Option (Bytes × Bytes)
  | [] => none
  | x :: rest =>
    match cutLast? b rest with
    | some (before, after) => some (x :: before, after)
    | none => if x = b then some ([], rest) else none

/-- The parts before and after the first occurrence of `separator`. -/
def cutText? (separator : Bytes) : Bytes → Option (Bytes × Bytes)
  | [] => (separator.isPrefixOf? []).map ([], ·)
  | x :: rest =>
    match separator.isPrefixOf? (x :: rest) with
    | some after => some ([], after)
    | none => (cutText? separator rest).map fun (before, after) => (x :: before, after)

/-- What holds of the first 256 numbers as bytes holds of every byte. -/
theorem forall_byte {P : UInt8 → Prop} (each : ∀ n < 256, P (UInt8.ofNat n)) (b : UInt8) : P b := by
  have known := each b.toNat b.toNat_lt
  rwa [UInt8.ofNat_toNat] at known

theorem nul_not_mem_untilNul (text : Bytes) : nul ∉ untilNul text := by
  induction text with
  | nil => simp [untilNul]
  | cons x rest ih =>
    by_cases h : x = nul
    · simp [untilNul, h]
    · simpa [untilNul, List.takeWhile_cons, h, Ne.symm h] using ih

theorem untilNul_eq_self_iff {text : Bytes} : untilNul text = text ↔ nul ∉ text := by
  refine ⟨fun h => h ▸ nul_not_mem_untilNul text, fun h => ?_⟩
  induction text with
  | nil => rfl
  | cons x rest ih =>
    obtain ⟨hx, hrest⟩ := not_or.1 (mt List.mem_cons.2 h)
    simpa [untilNul, List.takeWhile_cons, Ne.symm hx] using ih hrest

theorem cutFirst?_eq_none_iff {b : UInt8} {text : Bytes} :
    cutFirst? b text = none ↔ b ∉ text := by
  induction text with
  | nil => simp [cutFirst?]
  | cons x rest ih =>
    by_cases h : x = b
    · simp [cutFirst?, h]
    · simp [cutFirst?, h, ih, Ne.symm h]

theorem cutFirst?_eq_some_iff {b : UInt8} {text before after : Bytes} :
    cutFirst? b text = some (before, after) ↔ text = before ++ b :: after ∧ b ∉ before := by
  induction text generalizing before with
  | nil => simp [cutFirst?]
  | cons x rest ih =>
    by_cases h : x = b
    · subst h
      cases before with
      | nil => simp [cutFirst?, eq_comm]
      | cons y before => simp +contextual [cutFirst?]
    · cases before with
      | nil => simp [cutFirst?, h]
      | cons y before =>
        simp only [cutFirst?, h, if_false, Option.map_eq_some_iff, Prod.mk.injEq, Prod.exists,
          List.cons.injEq, List.cons_append, List.mem_cons, not_or]
        constructor
        · rintro ⟨l, r, hlr, ⟨rfl, rfl⟩, rfl⟩
          obtain ⟨e, hb⟩ := ih.1 hlr
          exact ⟨⟨rfl, e⟩, Ne.symm h, hb⟩
        · rintro ⟨⟨rfl, e⟩, -, hb⟩
          exact ⟨before, after, ih.2 ⟨e, hb⟩, ⟨rfl, rfl⟩, rfl⟩

theorem cutLast?_eq_none_iff {b : UInt8} {text : Bytes} :
    cutLast? b text = none ↔ b ∉ text := by
  induction text with
  | nil => simp [cutLast?]
  | cons x rest ih =>
    unfold cutLast?
    split
    · next h => simpa using fun _ => (not_congr ih).1 (by simp [h])
    · next h =>
      have hb := ih.1 h
      by_cases hx : x = b
      · simp [hx]
      · simp [hx, hb, Ne.symm hx]

theorem cutLast?_eq_some_iff {b : UInt8} {text before after : Bytes} :
    cutLast? b text = some (before, after) ↔ text = before ++ b :: after ∧ b ∉ after := by
  induction text generalizing before after with
  | nil => simp [cutLast?]
  | cons x rest ih =>
    unfold cutLast?
    split
    · next l r h =>
      obtain ⟨e, hr⟩ := ih.1 h
      simp only [Option.some.injEq, Prod.mk.injEq]
      constructor
      · rintro ⟨rfl, rfl⟩
        exact ⟨by simp [e], hr⟩
      · rintro ⟨e', ha⟩
        cases before with
        | nil =>
          simp only [List.nil_append, List.cons.injEq] at e'
          exact absurd (e'.2 ▸ e ▸ by simp) ha
        | cons y before =>
          simp only [List.cons_append, List.cons.injEq] at e'
          have h' := ih.2 ⟨e'.2, ha⟩
          rw [h, Option.some.injEq, Prod.mk.injEq] at h'
          exact ⟨by rw [e'.1, h'.1], h'.2⟩
    · next h =>
      have hb := cutLast?_eq_none_iff.1 h
      by_cases hx : x = b
      · subst hx
        cases before with
        | nil =>
          simp only [if_true, Option.some.injEq, Prod.mk.injEq, true_and, List.nil_append,
            List.cons.injEq]
          exact ⟨fun e => ⟨e, e ▸ hb⟩, fun e => e.1⟩
        | cons y before => simp only [if_true]; grind
      · cases before with
        | nil => simp [hx]
        | cons y before => simp only [hx, if_false]; grind

end ProxyRouting
