import ProxyRouting.Text.Decimal

/-!
# Integers in configuration values

A configured number is a 32-bit integer that may stand between blanks: blanks, an
optional sign, digits, blanks, and nothing else. Leading zeros are allowed. A text
with anything left over, with no digit, or with a number outside of the range has
no value.
-/

namespace ProxyRouting.Integer

/-- A blank: tab, line feed, vertical tab, form feed, carriage return or space. -/
def isBlank (b : UInt8) : Bool := b = 0x20 || (9 ≤ b && b ≤ 13)

/-- The integer written by an optional sign and digits. -/
def signed? : Bytes → Option Int
  | minusSign :: digits => (Decimal.digits? digits).map fun n => -(n : Int)
  | plusSign :: digits => (Decimal.digits? digits).map Int.ofNat
  | digits => (Decimal.digits? digits).map Int.ofNat

/-- The text without the blanks at its two ends. -/
def trim (text : Bytes) : Bytes :=
  ((text.dropWhile isBlank).reverse.dropWhile isBlank).reverse

/-- The 32-bit integer that `text` stands for, if it is one. -/
def read? (text : Bytes) : Option Int :=
  match signed? (trim text) with
  | some n => if -2147483648 ≤ n ∧ n ≤ 2147483647 then some n else none
  | none => none

end ProxyRouting.Integer
