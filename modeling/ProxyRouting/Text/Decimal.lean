import ProxyRouting.Bytes

/-!
# Decimal numbers

Numbers are written with the fewest digits, and an integer below zero with a
minus sign. The reader `digits?` takes digits alone: no sign, no blank, at least
one digit, and leading zeros are allowed. A port text is such a number of at most
five digits between 1 and 65535.
-/

namespace ProxyRouting.Decimal

/-! ### Writing -/

/-- The decimal digits of a number. -/
def ofNat (n : Nat) : Bytes := (Nat.toDigits 10 n).map Char.toUInt8

/-- The decimal text of an integer. -/
def ofInt : Int → Bytes
  | .ofNat n => ofNat n
  | .negSucc n => minusSign :: ofNat (n + 1)

/-! ### Reading -/

/-- A byte `0` to `9`. -/
def isDigit (b : UInt8) : Bool := 0x30 ≤ b && b ≤ 0x39

/-- The number that a string of digits stands for. -/
def value (digits : Bytes) : Nat := digits.foldl (fun n b => 10 * n + (b.toNat - 0x30)) 0

/-- The number written in `text`, if it is a nonempty string of digits. -/
def digits? (text : Bytes) : Option Nat :=
  if text ≠ [] ∧ text.all isDigit then some (value text) else none

/-- The port written in `text`: one to five digits, between 1 and 65535. -/
def port? (text : Bytes) : Option UInt16 :=
  if 5 < text.length then none
  else
    match digits? text with
    | some n => if 1 ≤ n ∧ n ≤ 65535 then some (UInt16.ofNat n) else none
    | none => none

end ProxyRouting.Decimal
