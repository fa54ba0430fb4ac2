import ProxyRouting.Text.Integer

/-!
# Numbers are read as they are written

The digits that `ofNat` writes stand for the number (`value_ofNat`), and they are read as it also
behind leading zeros. A configured integer may moreover have a plus sign, and blanks around it:
`Writes` has all these spellings of a number, and `read?_of_writes` says that each of them is read
as the number, up to the largest one of 31 bits.
-/

namespace ProxyRouting

/-! ### Digits -/

namespace Decimal

variable {n : Nat}

/-- The last digit stands behind those of the tenth part. -/
theorem ofNat_eq (n : Nat) : ofNat n =
    if n < 10 then [n.digitChar.toUInt8] else ofNat (n / 10) ++ [(n % 10).digitChar.toUInt8] := by
  unfold ofNat
  rw [Nat.toDigits_eq_if (by decide)]
  split
  · rfl
  · rw [List.map_append]
    rfl

theorem toNat_digitChar : ∀ digit < 10, (Nat.digitChar digit).toUInt8.toNat = 0x30 + digit := by
  decide

theorem isDigit_digitChar : ∀ digit < 10, isDigit (Nat.digitChar digit).toUInt8 = true := by
  decide

theorem ofNat_ne_nil (n : Nat) : ofNat n ≠ [] := by
  rw [ofNat_eq]
  split <;> simp

theorem isDigit_of_mem_ofNat {b : UInt8} (mem : b ∈ ofNat n) : isDigit b = true := by
  induction n using Nat.strongRecOn with
  | ind n ih =>
    rw [ofNat_eq] at mem
    split at mem
    · next small =>
      rw [List.mem_singleton.1 mem]
      exact isDigit_digitChar n small
    · next large =>
      rcases List.mem_append.1 mem with earlier | last
      · exact ih (n / 10) (by omega) earlier
      · rw [List.mem_singleton.1 last]
        exact isDigit_digitChar _ (Nat.mod_lt _ (by decide))

theorem value_append_singleton (digits : Bytes) (b : UInt8) :
    value (digits ++ [b]) = 10 * value digits + (b.toNat - 0x30) := by
  rw [value, List.foldl_append]
  rfl

/-- The digits of a number stand for it. -/
theorem value_ofNat (n : Nat) : value (ofNat n) = n := by
  induction n using Nat.strongRecOn with
  | ind n ih =>
    rw [ofNat_eq]
    split
    · next small =>
      show 10 * 0 + (n.digitChar.toUInt8.toNat - 0x30) = n
      rw [toNat_digitChar n small]
      omega
    · next large =>
      rw [value_append_singleton, ih (n / 10) (by omega),
        toNat_digitChar _ (Nat.mod_lt _ (by decide))]
      omega

/-- Leading zeros do not count. -/
theorem value_zeros_append (zeros : Nat) (digits : Bytes) :
    value (List.replicate zeros 0x30 ++ digits) = value digits := by
  induction zeros with
  | zero => rfl
  | succ zeros ih =>
    rw [List.replicate_succ, List.cons_append]
    exact ih

/-- The digits of a number behind leading zeros. -/
def padded (zeros n : Nat) : Bytes := List.replicate zeros 0x30 ++ ofNat n

theorem padded_ne_nil (zeros n : Nat) : padded zeros n ≠ [] :=
  List.append_ne_nil_of_right_ne_nil _ (ofNat_ne_nil n)

theorem isDigit_of_mem_padded {zeros : Nat} {b : UInt8} (mem : b ∈ padded zeros n) :
    isDigit b = true := by
  rcases List.mem_append.1 mem with zero | digit
  · rw [List.eq_of_mem_replicate zero]
    rfl
  · exact isDigit_of_mem_ofNat digit

theorem digits?_padded (zeros n : Nat) : digits? (padded zeros n) = some n := by
  rw [digits?, if_pos ⟨padded_ne_nil zeros n, List.all_eq_true.2 fun _ => isDigit_of_mem_padded⟩,
    padded, value_zeros_append, value_ofNat]

end Decimal

/-! ### Configured integers -/

namespace Integer

/-- The spellings of a number as a configured integer. -/
inductive Writes (n : Nat) : Bytes → Prop
  /-- Blanks, perhaps a plus sign, perhaps zeros, the digits, and blanks. -/
  | mk (before sign after : Bytes) (zeros : Nat) :
      (∀ b ∈ before, isBlank b = true) → sign = [] ∨ sign = [plusSign] →
      (∀ b ∈ after, isBlank b = true) →
      Writes n (before ++ (sign ++ Decimal.padded zeros n) ++ after)

/-- The digits alone are one of the spellings. -/
theorem writes_ofNat (n : Nat) : Writes n (Decimal.ofNat n) := by
  have writes : Writes n ([] ++ ([] ++ Decimal.padded 0 n) ++ []) :=
    .mk [] [] [] 0 (by simp) (Or.inl rfl) (by simp)
  simpa [Decimal.padded] using writes

theorem dropWhile_isBlank_append {text after : Bytes} (nonempty : text ≠ [])
    (solid : ∀ b ∈ text, isBlank b = false) :
    (text ++ after).dropWhile isBlank = text ++ after := by
  cases text with
  | nil => exact absurd rfl nonempty
  | cons b rest =>
    rw [List.cons_append, List.dropWhile_cons_of_neg]
    rw [solid b List.mem_cons_self]
    decide

/-- Blanks around a text without blanks are taken away. -/
theorem trim_of_blanks {before text after : Bytes} (nonempty : text ≠ [])
    (solid : ∀ b ∈ text, isBlank b = false) (blanks : ∀ b ∈ before, isBlank b = true)
    (behind : ∀ b ∈ after, isBlank b = true) : trim (before ++ text ++ after) = text := by
  have reversed : text.reverse.dropWhile isBlank = text.reverse := by
    have kept : (text.reverse ++ []).dropWhile isBlank = text.reverse ++ [] := by
      apply dropWhile_isBlank_append
      · simpa using nonempty
      · intro b mem
        exact solid b (List.mem_reverse.1 mem)
    rwa [List.append_nil] at kept
  rw [trim, List.append_assoc, List.dropWhile_append_of_pos blanks,
    dropWhile_isBlank_append nonempty solid, List.reverse_append,
    List.dropWhile_append_of_pos fun b mem => behind b (List.mem_reverse.1 mem), reversed,
    List.reverse_reverse]

theorem isBlank_of_isDigit {b : UInt8} (digit : Decimal.isDigit b = true) : isBlank b = false := by
  unfold Decimal.isDigit at digit
  unfold isBlank
  grind

theorem signed?_of_isDigit {digits : Bytes} {n : Nat} (all : ∀ b ∈ digits, Decimal.isDigit b = true)
    (reads : Decimal.digits? digits = some n) : signed? digits = some (n : Int) := by
  unfold signed?
  split
  · exact absurd (all minusSign List.mem_cons_self) (by decide)
  · exact absurd (all plusSign List.mem_cons_self) (by decide)
  · rw [reads]
    rfl

/-- **Every spelling of a number of 31 bits is read as the number.** -/
theorem read?_of_writes {n : Nat} {text : Bytes} (writes : Writes n text)
    (small : n ≤ 2147483647) : read? text = some (n : Int) := by
  obtain ⟨before, plus, after, zeros, blanks, sign, behind⟩ := writes
  have digits : ∀ b ∈ Decimal.padded zeros n, Decimal.isDigit b = true :=
    fun b => Decimal.isDigit_of_mem_padded
  have reads : signed? (plus ++ Decimal.padded zeros n) = some (n : Int) := by
    rcases sign with rfl | rfl
    · exact signed?_of_isDigit digits (Decimal.digits?_padded zeros n)
    · show (Decimal.digits? (Decimal.padded zeros n)).map Int.ofNat = some (n : Int)
      rw [Decimal.digits?_padded]
      rfl
  have solid : ∀ b ∈ plus ++ Decimal.padded zeros n, isBlank b = false := by
    intro b mem
    rcases List.mem_append.1 mem with mem | mem
    · rcases sign with rfl | rfl
      · cases mem
      · rw [List.mem_singleton.1 mem]
        rfl
    · exact isBlank_of_isDigit (digits b mem)
  rw [read?, trim_of_blanks
    (List.append_ne_nil_of_right_ne_nil _ (Decimal.padded_ne_nil zeros n)) solid blanks behind,
    reads]
  dsimp only
  rw [if_pos (by omega)]

example : Writes 80 (ascii " +0080\n") :=
  .mk [0x20] [plusSign] [0x0A] 2 (by simp [isBlank]) (Or.inr rfl) (by simp [isBlank])

end Integer

end ProxyRouting
