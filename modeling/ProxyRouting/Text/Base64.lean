import ProxyRouting.Bytes

/-!
# Base64

Three bytes become four characters of the 64-letter alphabet, six bits each. A
last group of one or two bytes is filled with zero bits and padded with `=` to
four characters. `decode?` reads such a text back and refuses every other.
-/

namespace ProxyRouting.Base64

/-! ### The alphabet -/

/-- The character of a six-bit number: capitals, small letters, digits, `+` and `/`. -/
def symbol (n : Nat) : UInt8 :=
  if n < 26 then UInt8.ofNat (0x41 + n)
  else if n < 52 then UInt8.ofNat (0x61 + (n - 26))
  else if n < 62 then UInt8.ofNat (0x30 + (n - 52))
  else if n = 62 then plusSign
  else slash

/-- The six-bit number of a character. -/
def sextet? (b : UInt8) : Option Nat :=
  if 0x41 ≤ b ∧ b ≤ 0x5A then some (b.toNat - 0x41)
  else if 0x61 ≤ b ∧ b ≤ 0x7A then some (b.toNat - 0x61 + 26)
  else if 0x30 ≤ b ∧ b ≤ 0x39 then some (b.toNat - 0x30 + 52)
  else if b = plusSign then some 62
  else if b = slash then some 63
  else none

/-! ### Writing and reading -/

/-- The Base64 text of a byte string. -/
def encode : Bytes → Bytes
  | [] => []
  | [a] => [symbol (a.toNat / 4), symbol (a.toNat % 4 * 16), equalsSign, equalsSign]
  | [a, b] =>
    [symbol (a.toNat / 4), symbol (a.toNat % 4 * 16 + b.toNat / 16),
      symbol (b.toNat % 16 * 4), equalsSign]
  | a :: b :: c :: rest =>
    symbol (a.toNat / 4) :: symbol (a.toNat % 4 * 16 + b.toNat / 16) ::
      symbol (b.toNat % 16 * 4 + c.toNat / 64) :: symbol (c.toNat % 64) :: encode rest

/-- The byte string of a padded Base64 text whose filling bits are zero. -/
def decode? : Bytes → Option Bytes
  | [] => some []
  | a :: b :: c :: d :: rest =>
    match sextet? a, sextet? b, sextet? c, sextet? d with
    | some w, some x, some y, some z =>
      (decode? rest).map fun bytes =>
        UInt8.ofNat (w * 4 + x / 16) :: UInt8.ofNat (x % 16 * 16 + y / 4) ::
          UInt8.ofNat (y % 4 * 64 + z) :: bytes
    | some w, some x, some y, none =>
      if d = equalsSign ∧ rest = [] ∧ y % 4 = 0 then
        some [UInt8.ofNat (w * 4 + x / 16), UInt8.ofNat (x % 16 * 16 + y / 4)]
      else none
    | some w, some x, none, none =>
      if c = equalsSign ∧ d = equalsSign ∧ rest = [] ∧ x % 16 = 0 then
        some [UInt8.ofNat (w * 4 + x / 16)]
      else none
    | _, _, _, _ => none
  | _ => none

end ProxyRouting.Base64
