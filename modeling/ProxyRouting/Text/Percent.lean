import ProxyRouting.Bytes

/-!
# Percent escapes

In the user part of a URL a byte may be written as `%` and two hexadecimal digits.
Decoding goes from left to right, replaces each such escape and keeps every other
byte, a `%` without two digits after it included.

`Reads text raw` says by rules what decoding computes, and `Writes plain raw text` says
that `text` is one of the spellings of `raw`. Both take the digits from two tables, one
for each case.
-/

namespace ProxyRouting.Percent

/-- The value of a hexadecimal digit of either case. -/
def hexDigit? (b : UInt8) : Option UInt8 :=
  if 0x30 ≤ b ∧ b ≤ 0x39 then some (b - 0x30)
  else if 0x61 ≤ b ∧ b ≤ 0x66 then some (b - 0x61 + 10)
  else if 0x41 ≤ b ∧ b ≤ 0x46 then some (b - 0x41 + 10)
  else none

/-- The byte written by two hexadecimal digits. -/
def hexByte? (high low : UInt8) : Option UInt8 :=
  match hexDigit? high, hexDigit? low with
  | some h, some l => some (16 * h + l)
  | _, _ => none

/-- The text with its escapes replaced by the bytes that they stand for. -/
def decode : Bytes → Bytes
  | b :: high :: low :: rest =>
    if b = percentSign then
      match hexByte? high low with
      | some byte => byte :: decode rest
      | none => b :: decode (high :: low :: rest)
    else b :: decode (high :: low :: rest)
  | text => text

/-- The byte `b` is the hexadecimal digit of `n`, in one of the two cases. -/
def HexDigit (n : Nat) (b : UInt8) : Prop :=
  (ascii "0123456789abcdef")[n]? = some b ∨ (ascii "0123456789ABCDEF")[n]? = some b

/-- The bytes `high` and `low` are the hexadecimal digits of the byte `b`. -/
def HexDigits (b high low : UInt8) : Prop :=
  HexDigit (b.toNat / 16) high ∧ HexDigit (b.toNat % 16) low

/-- No escape begins with the first byte of the text. -/
def NoEscape (text : Bytes) : Prop :=
  ∀ b high low rest, text = percentSign :: high :: low :: rest → ¬ HexDigits b high low

/-- What a text stands for, from left to right. -/
inductive Reads : Bytes → Bytes → Prop
  /-- Nothing stands for nothing. -/
  | nil : Reads [] []
  /-- An escape stands for its byte. -/
  | escape {b high low : UInt8} {text raw : Bytes} :
      HexDigits b high low → Reads text raw → Reads (percentSign :: high :: low :: text) (b :: raw)
  /-- A byte with which no escape begins stands for itself. -/
  | plain {b : UInt8} {text raw : Bytes} :
      NoEscape (b :: text) → Reads text raw → Reads (b :: text) (b :: raw)

/-- The spellings of a byte string in which a byte stands for itself, if `plain`
allows it there, or is written as an escape. -/
inductive Writes (plain : UInt8 → Prop) : Bytes → Bytes → Prop
  /-- Nothing is written as nothing. -/
  | nil : Writes plain [] []
  /-- A byte written as itself. -/
  | plain {b : UInt8} {raw text : Bytes} :
      plain b → Writes plain raw text → Writes plain (b :: raw) (b :: text)
  /-- A byte written as an escape. -/
  | escape {b high low : UInt8} {raw text : Bytes} :
      HexDigits b high low → Writes plain raw text →
      Writes plain (b :: raw) (percentSign :: high :: low :: text)

end ProxyRouting.Percent
