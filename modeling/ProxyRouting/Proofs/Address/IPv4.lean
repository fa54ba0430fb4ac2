import Mathlib.Data.List.Basic
import Mathlib.Data.List.Induction
import ProxyRouting.Address.IPv4
import ProxyRouting.Proofs.Text.Integer

/-!
# The text of an IPv4 address

An address has exactly one text: its four octets as decimal numbers, with full stops between them.
This text is read as the address, and no other one is (`IPv4.parse?_eq_some_iff`). A leading zero,
a fifth number or an octet above 255 makes a text that is not that of any address.
-/

namespace ProxyRouting

/-! ### Numbers without leading zeros -/

namespace Decimal

variable {digits : Bytes}

theorem digitChar_of_isDigit {b : UInt8} (digit : isDigit b = true) :
    (Nat.digitChar (b.toNat - 0x30)).toUInt8 = b :=
  forall_byte
    (P := fun b => isDigit b = true → (Nat.digitChar (b.toNat - 0x30)).toUInt8 = b)
    (by decide +kernel) b digit

theorem lt_of_isDigit {b : UInt8} (digit : isDigit b = true) : b.toNat - 0x30 < 10 := by
  simp only [isDigit, Bool.and_eq_true, decide_eq_true_eq, UInt8.le_iff_toNat_le] at digit
  have high : b.toNat ≤ 0x39 := digit.2
  omega

/-- The text is a number without leading zeros. -/
structure Plain (digits : Bytes) : Prop where
  /-- There is a digit. -/
  nonempty : digits ≠ []
  /-- There is nothing else. -/
  all : ∀ b ∈ digits, isDigit b = true
  /-- A zero begins only the number zero. -/
  noZero : digits = [0x30] ∨ digits.head? ≠ some 0x30

/-- A number without leading zeros is written in the only way in which it can be. -/
theorem Plain.ofNat_value (plain : Plain digits) : ofNat (value digits) = digits := by
  induction digits using List.reverseRecOn with
  | nil => exact absurd rfl plain.nonempty
  | append_singleton front b ih =>
    have digit : isDigit b = true := plain.all b (by simp)
    have small := lt_of_isDigit digit
    rw [value_append_singleton, ofNat_eq]
    cases front with
    | nil =>
      have alone : 10 * value [] + (b.toNat - 0x30) = b.toNat - 0x30 := Nat.zero_add _
      rw [alone, if_pos small, digitChar_of_isDigit digit]
      rfl
    | cons first rest =>
      have head : first ≠ 0x30 := by
        rcases plain.noZero with zero | other
        · simp at zero
        · simpa using other
      have written : ofNat (value (first :: rest)) = first :: rest := ih {
        nonempty := by simp
        all := fun c mem => plain.all c (List.mem_append_left _ mem)
        noZero := Or.inr (by simpa using head) }
      have positive : value (first :: rest) ≠ 0 := by
        intro zero
        rw [zero] at written
        exact head (List.cons.inj written).1.symm
      have tenth :
          (10 * value (first :: rest) + (b.toNat - 0x30)) / 10 = value (first :: rest) := by
        omega
      have last : (10 * value (first :: rest) + (b.toNat - 0x30)) % 10 = b.toNat - 0x30 := by
        omega
      rw [if_neg (by omega), tenth, last, written, digitChar_of_isDigit digit]

theorem plain_ofNat (n : Nat) : Plain (ofNat n) := by
  refine ⟨ofNat_ne_nil n, fun b => isDigit_of_mem_ofNat, ?_⟩
  induction n using Nat.strongRecOn with
  | ind n ih =>
    rw [ofNat_eq]
    split
    · next small =>
      by_cases zero : n = 0
      · subst zero
        exact Or.inl rfl
      · right
        have value := toNat_digitChar n small
        intro is
        rw [Option.some.inj is] at value
        have : (0x30 : UInt8).toNat = 0x30 := rfl
        omega
    · next large =>
      right
      rw [List.head?_append_of_ne_nil _ (ofNat_ne_nil _)]
      rcases ih (n / 10) (by omega) with zero | other
      · have tenth := value_ofNat (n / 10)
        rw [zero] at tenth
        have : value [0x30] = 0 := rfl
        omega
      · exact other

end Decimal

/-- Between the parts there is nothing but the separator. -/
theorem mem_of_mem_intercalate {separator b : UInt8} {parts : List Bytes}
    (mem : b ∈ [separator].intercalate parts) : b = separator ∨ ∃ part ∈ parts, b ∈ part := by
  induction parts with
  | nil => cases mem
  | cons part rest ih =>
    cases rest with
    | nil =>
      rw [List.intercalate_singleton] at mem
      exact Or.inr ⟨part, List.mem_cons_self, mem⟩
    | cons next rest =>
      rw [List.intercalate_cons_cons, List.append_assoc] at mem
      rcases List.mem_append.1 mem with first | later
      · exact Or.inr ⟨part, List.mem_cons_self, first⟩
      rcases List.mem_cons.1 later with rfl | behind
      · exact Or.inl rfl
      rcases ih behind with between | ⟨other, known, mem⟩
      · exact Or.inl between
      · exact Or.inr ⟨other, List.mem_cons_of_mem _ known, mem⟩

/-! ### Addresses -/

namespace IPv4

/-- The text of the address: its octets as numbers, with full stops between them. -/
def text (address : IPv4) : Bytes :=
  [fullStop].intercalate (address.bytes.map fun octet => Decimal.ofNat octet.toNat)

variable {written : Bytes} {address : IPv4}

/-- An octet is read from its number, and from no other text. -/
theorem octet?_eq_some_iff {octet : UInt8} :
    octet? written = some octet ↔ written = Decimal.ofNat octet.toNat := by
  unfold octet?
  constructor
  · intro reads
    split at reads
    · next n digits =>
      split at reads
      · next plain =>
        cases reads
        unfold Decimal.digits? at digits
        split at digits
        · next all =>
          cases digits
          have number : Decimal.Plain written :=
            ⟨all.1, List.all_eq_true.1 all.2, plain.2⟩
          rw [UInt8.toNat_ofNat_of_lt' (Nat.lt_of_le_of_lt plain.1 (by decide)),
            number.ofNat_value]
        · cases digits
      · cases reads
    · cases reads
  · rintro rfl
    have plain := Decimal.plain_ofNat octet.toNat
    have digits : Decimal.digits? (Decimal.ofNat octet.toNat) = some octet.toNat := by
      rw [Decimal.digits?, if_pos ⟨plain.nonempty, List.all_eq_true.2 plain.all⟩,
        Decimal.value_ofNat]
    have small := octet.toNat_lt
    rw [digits]
    dsimp only
    rw [if_pos ⟨by omega, plain.noZero⟩, UInt8.ofNat_toNat]

theorem fullStop_not_mem_ofNat (n : Nat) : fullStop ∉ Decimal.ofNat n := fun mem =>
  absurd (Decimal.isDigit_of_mem_ofNat mem) (by decide)

/-- **An address has one text.** -/
theorem parse?_eq_some_iff : parse? written = some address ↔ written = address.text := by
  unfold parse?
  constructor
  · intro reads
    split at reads
    · next a b c d parts =>
      split at reads
      · next first second third fourth =>
        cases reads
        rw [octet?_eq_some_iff] at first second third fourth
        have whole : [fullStop].intercalate (written.splitOn fullStop) = written :=
          List.intercalate_splitOn fullStop
        rw [← whole, parts, first, second, third, fourth]
        rfl
      · cases reads
    · cases reads
  · rintro rfl
    have parts : (address.text).splitOn fullStop =
        address.bytes.map fun octet => Decimal.ofNat octet.toNat := by
      refine List.splitOn_intercalate fullStop ?_ (by simp [bytes])
      intro part mem
      obtain ⟨octet, -, rfl⟩ := List.mem_map.1 mem
      exact fullStop_not_mem_ofNat octet.toNat
    rw [parts]
    simp only [bytes, List.map_cons, List.map_nil, octet?_eq_some_iff.2 rfl]

/-- An address is made of digits and full stops. -/
theorem mem_text {b : UInt8} (mem : b ∈ address.text) :
    Decimal.isDigit b = true ∨ b = fullStop := by
  rcases mem_of_mem_intercalate mem with stop | ⟨part, ofOctet, mem⟩
  · exact Or.inr stop
  · obtain ⟨octet, -, rfl⟩ := List.mem_map.1 ofOctet
    exact Or.inl (Decimal.isDigit_of_mem_ofNat mem)

theorem colon_not_mem_text : colon ∉ address.text := fun mem => by
  rcases mem_text mem with digit | stop
  · exact absurd digit (by decide)
  · exact absurd stop (by decide)

theorem fullStop_mem_text : fullStop ∈ address.text := by
  simp [text, bytes, List.intercalate]

end IPv4

end ProxyRouting
