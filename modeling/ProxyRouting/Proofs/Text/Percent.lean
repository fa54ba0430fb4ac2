import ProxyRouting.Text.Percent

/-!
# Percent escapes are read as they are written

Decoding gives what the text stands for, whatever the text is (`decode_eq_iff`): an escape is
looked for at each byte, and after an escape behind it. So every spelling of a byte string is
decoded to it (`decode_of_writes`), if a `%` is not allowed to stand for itself. A spelling holds
no bytes but those that may stand for themselves and those of escapes (`Writes.all`).
-/

namespace ProxyRouting.Percent

variable {b high low : UInt8} {raw text : Bytes}

/-! ### Digits -/

theorem HexDigit.lt {n : Nat} (digit : HexDigit n b) : n < 16 := by
  rcases digit with small | capital
  · exact (List.getElem?_eq_some_iff.1 small).1
  · exact (List.getElem?_eq_some_iff.1 capital).1

theorem hexDigit?_small : ∀ n < 16,
    ((ascii "0123456789abcdef")[n]?.bind hexDigit?) = some (UInt8.ofNat n) := by
  decide

theorem hexDigit?_capital : ∀ n < 16,
    ((ascii "0123456789ABCDEF")[n]?.bind hexDigit?) = some (UInt8.ofNat n) := by
  decide

theorem hexDigit_of_hexDigit? {digit : UInt8} (reads : hexDigit? b = some digit) :
    HexDigit digit.toNat b :=
  forall_byte (P := fun b => ∀ digit ∈ hexDigit? b, HexDigit digit.toNat b)
    (by unfold HexDigit; decide +kernel) b digit reads

/-- The digits are those of the two tables. -/
theorem hexDigit?_eq_some_iff {digit : UInt8} :
    hexDigit? b = some digit ↔ HexDigit digit.toNat b := by
  refine ⟨hexDigit_of_hexDigit?, fun known => ?_⟩
  have small := hexDigit?_small digit.toNat known.lt
  have capital := hexDigit?_capital digit.toNat known.lt
  rw [UInt8.ofNat_toNat] at small capital
  rcases known with eq | eq
  · rwa [eq] at small
  · rwa [eq] at capital

/-- A hexadecimal digit is a decimal digit, or a letter up to `f`. -/
theorem HexDigit.mem {n : Nat} (digit : HexDigit n b) : b ∈ ascii "0123456789abcdefABCDEF" := by
  have smallMem : ∀ b ∈ ascii "0123456789abcdef", b ∈ ascii "0123456789abcdefABCDEF" := by
    decide +kernel
  have capitalMem : ∀ b ∈ ascii "0123456789ABCDEF", b ∈ ascii "0123456789abcdefABCDEF" := by
    decide +kernel
  rcases digit with small | capital
  · exact smallMem b (List.mem_of_getElem? small)
  · exact capitalMem b (List.mem_of_getElem? capital)

theorem toNat_of_digits {h l : UInt8} (highSmall : h.toNat < 16) (lowSmall : l.toNat < 16) :
    (16 * h + l).toNat = 16 * h.toNat + l.toNat := by
  rw [UInt8.toNat_add, UInt8.toNat_mul]
  show (16 * h.toNat % 256 + l.toNat) % 256 = 16 * h.toNat + l.toNat
  omega

/-- Two digits are read as the byte that they are the digits of. -/
theorem hexByte?_eq_some_iff : hexByte? high low = some b ↔ HexDigits b high low := by
  constructor
  · intro reads
    unfold hexByte? at reads
    split at reads
    · next h l readsHigh readsLow =>
      have highDigit := hexDigit?_eq_some_iff.1 readsHigh
      have lowDigit := hexDigit?_eq_some_iff.1 readsLow
      have lowSmall := lowDigit.lt
      have value : b.toNat = 16 * h.toNat + l.toNat := by
        rw [← Option.some.inj reads]
        exact toNat_of_digits highDigit.lt lowSmall
      have upper : b.toNat / 16 = h.toNat := by omega
      have lower : b.toNat % 16 = l.toNat := by omega
      exact ⟨upper ▸ highDigit, lower ▸ lowDigit⟩
    · cases reads
  · rintro ⟨highDigit, lowDigit⟩
    have upper : (UInt8.ofNat (b.toNat / 16)).toNat = b.toNat / 16 :=
      UInt8.toNat_ofNat_of_lt' (Nat.lt_of_le_of_lt (Nat.div_le_self _ _) b.toNat_lt)
    have lower : (UInt8.ofNat (b.toNat % 16)).toNat = b.toNat % 16 :=
      UInt8.toNat_ofNat_of_lt' (Nat.lt_of_le_of_lt (Nat.mod_le _ _) b.toNat_lt)
    rw [hexByte?, hexDigit?_eq_some_iff.2 (upper.symm ▸ highDigit),
      hexDigit?_eq_some_iff.2 (lower.symm ▸ lowDigit)]
    refine congrArg some (UInt8.toNat_inj.1 ?_)
    rw [toNat_of_digits (upper.symm ▸ highDigit.lt) (lower.symm ▸ lowDigit.lt), upper, lower]
    omega

/-! ### Decoding -/

theorem decode_escape (digits : HexDigits b high low) (rest : Bytes) :
    decode (percentSign :: high :: low :: rest) = b :: decode rest := by
  rw [decode, if_pos rfl, hexByte?_eq_some_iff.2 digits]

theorem decode_of_noEscape (noEscape : NoEscape (b :: text)) :
    decode (b :: text) = b :: decode text := by
  match text with
  | [] => rfl
  | [_] => rfl
  | high :: low :: rest =>
    rw [decode]
    split
    · next percent =>
      split
      · next byte digits =>
        subst percent
        exact absurd (hexByte?_eq_some_iff.1 digits) (noEscape byte high low rest rfl)
      · rfl
    · rfl

theorem decode_of_reads (reads : Reads text raw) : decode text = raw := by
  induction reads with
  | nil => rfl
  | escape digits _ ih => rw [decode_escape digits, ih]
  | plain noEscape _ ih => rw [decode_of_noEscape noEscape, ih]

theorem reads_decode : ∀ text : Bytes, Reads text (decode text)
  | [] => .nil
  | b :: text => by
    by_cases escape : ∃ byte high low rest,
        b :: text = percentSign :: high :: low :: rest ∧ HexDigits byte high low
    · obtain ⟨byte, high, low, rest, eq, digits⟩ := escape
      have shorter : rest.length < (b :: text).length := by
        rw [eq]
        simp only [List.length_cons]
        omega
      rw [eq, decode_escape digits]
      exact .escape digits (reads_decode rest)
    · have noEscape : NoEscape (b :: text) := fun byte high low rest eq digits =>
        escape ⟨byte, high, low, rest, eq, digits⟩
      rw [decode_of_noEscape noEscape]
      exact .plain noEscape (reads_decode text)
  termination_by text => text.length
  decreasing_by
    · exact shorter
    · exact Nat.lt_succ_self text.length

/-- **Decoding gives what the text stands for.** -/
theorem decode_eq_iff : decode text = raw ↔ Reads text raw :=
  ⟨fun eq => eq ▸ reads_decode text, decode_of_reads⟩

/-! ### Spellings -/

variable {plain : UInt8 → Prop}

/-- **A spelling is decoded to what it spells**, if no `%` stands for itself in it. -/
theorem decode_of_writes (percent : ¬ plain percentSign) (writes : Writes plain raw text) :
    decode text = raw := by
  induction writes with
  | nil => rfl
  | @plain b raw text allowed _ ih =>
    have noEscape : NoEscape (b :: text) := by
      intro byte high low rest eq
      obtain ⟨rfl, -⟩ := List.cons.inj eq
      exact absurd allowed percent
    rw [decode_of_noEscape noEscape, ih]
  | escape digits _ ih => rw [decode_escape digits, ih]

/-- What a spelling is made of. -/
theorem Writes.mem (writes : Writes plain raw text) (mem : b ∈ text) :
    plain b ∨ b = percentSign ∨ b ∈ ascii "0123456789abcdefABCDEF" := by
  induction writes with
  | nil => cases mem
  | plain allowed _ ih =>
    rcases List.mem_cons.1 mem with rfl | later
    · exact Or.inl allowed
    · exact ih later
  | escape digits _ ih =>
    rcases List.mem_cons.1 mem with rfl | mem
    · exact Or.inr (Or.inl rfl)
    rcases List.mem_cons.1 mem with rfl | mem
    · exact Or.inr (Or.inr digits.1.mem)
    rcases List.mem_cons.1 mem with rfl | later
    · exact Or.inr (Or.inr digits.2.mem)
    · exact ih later

end ProxyRouting.Percent
