import ProxyRouting.Config.Document
import ProxyRouting.Text.Percent

/-!
# Documents in JSON notation

A document may be written as a JSON value. An object is a mapping, an array a sequence, and
a string, a number and a truth value are scalars with their texts. The strings are bytes,
with the escapes of JSON replaced.

Reading needs one unit of fuel for each value and separator, so as many as there are bytes
suffice.
-/

namespace ProxyRouting.Config.Json

/-- A blank between tokens: space, tab, line feed or carriage return. -/
def isBlank (b : UInt8) : Bool := b = 0x20 || b = 0x09 || b = 0x0A || b = 0x0D

/-- The text without the blanks before its first token. -/
def skipBlanks (text : Bytes) : Bytes := text.dropWhile isBlank

/-! ### Strings -/

/-- The number written by four hexadecimal digits. -/
def unit? (a b c d : UInt8) : Option Nat :=
  match Percent.hexByte? a b, Percent.hexByte? c d with
  | some high, some low => some (256 * high.toNat + low.toNat)
  | _, _ => none

/-- The bytes of a character. -/
def utf8 (code : Nat) : Bytes := (String.singleton (Char.ofNat code)).toUTF8.toList

/-- The byte that an escape of one letter stands for. -/
def simpleEscape? (b : UInt8) : Option UInt8 :=
  if b = 0x22 ∨ b = 0x5C ∨ b = slash then some b
  else if b = 0x62 then some 0x08
  else if b = 0x66 then some 0x0C
  else if b = 0x6E then some 0x0A
  else if b = 0x72 then some 0x0D
  else if b = 0x74 then some 0x09
  else none

/-- The bytes of a string, given behind its opening quote, and what follows its closing
one. Two escapes that are halves of one character are read together. -/
def string? : Bytes → Option (Bytes × Bytes)
  | 0x22 :: rest => some ([], rest)
  | 0x5C :: 0x75 :: a :: b :: c :: d :: 0x5C :: 0x75 :: e :: f :: g :: h :: rest =>
    match unit? a b c d, unit? e f g h with
    | some high, some low =>
      if 0xD800 ≤ high ∧ high < 0xDC00 ∧ 0xDC00 ≤ low ∧ low < 0xE000 then
        (string? rest).map fun (bytes, rest) =>
          (utf8 (0x10000 + 1024 * (high - 0xD800) + (low - 0xDC00)) ++ bytes, rest)
      else
        (string? (0x5C :: 0x75 :: e :: f :: g :: h :: rest)).map fun (bytes, rest) =>
          (utf8 high ++ bytes, rest)
    | _, _ => none
  | 0x5C :: 0x75 :: a :: b :: c :: d :: rest =>
    match unit? a b c d with
    | some code => (string? rest).map fun (bytes, rest) => (utf8 code ++ bytes, rest)
    | none => none
  | 0x5C :: b :: rest =>
    match simpleEscape? b with
    | some byte => (string? rest).map fun (bytes, rest) => (byte :: bytes, rest)
    | none => none
  | b :: rest => (string? rest).map fun (bytes, rest) => (b :: bytes, rest)
  | [] => none

/-! ### Values -/

/-- The bytes of which numbers and words are made. -/
def isWordByte (b : UInt8) : Bool :=
  Decimal.isDigit b || (0x61 ≤ b && b ≤ 0x7A) || b = 0x45 || b = plusSign || b = minusSign ||
    b = fullStop

/-- The scalar that a word stands for: a null, a truth value or a number, which is any word
that begins with a digit or a minus sign. -/
def word? (word : Bytes) : Option Document :=
  if word = Document.nullText then some .null
  else if word = ascii "true" ∨ word = ascii "false" then some (.scalar word)
  else
    match word with
    | b :: _ => if Decimal.isDigit b || b = minusSign then some (.scalar word) else none
    | [] => none

/-- What follows a comma. -/
def separator? : Bytes → Option Bytes
  | 0x2C :: rest => some rest
  | _ => none

/-- A key with its colon, and what follows them. -/
def key? : Bytes → Option (Bytes × Bytes)
  | 0x22 :: rest =>
    match string? rest with
    | some (key, rest) =>
      match skipBlanks rest with
      | colon :: rest => some (key, rest)
      | _ => none
    | none => none
  | _ => none

mutual

/-- A value, and what follows it. -/
def value? : Nat → Bytes → Option (Document × Bytes)
  | 0, _ => none
  | fuel + 1, text =>
    match skipBlanks text with
    | 0x7B :: rest => (members? fuel true rest).map fun (entries, rest) => (.mapping entries, rest)
    | 0x5B :: rest => (items? fuel true rest).map fun (items, rest) => (.sequence items, rest)
    | 0x22 :: rest => (string? rest).map fun (bytes, rest) => (.scalar bytes, rest)
    | text => (word? (text.takeWhile isWordByte)).map fun d => (d, text.dropWhile isWordByte)

/-- The items of an array up to its bracket; behind an item there has to be a comma first. -/
def items? : Nat → Bool → Bytes → Option (List Document × Bytes)
  | 0, _, _ => none
  | fuel + 1, isFirst, text =>
    match skipBlanks text with
    | 0x5D :: rest => some ([], rest)
    | text =>
      let behind := if isFirst then some text else separator? text
      match behind.bind (value? fuel) with
      | some (item, rest) =>
        (items? fuel false rest).map fun (items, rest) => (item :: items, rest)
      | none => none

/-- The members of an object up to its brace; behind a member there has to be a comma first. -/
def members? : Nat → Bool → Bytes → Option (List (Bytes × Document) × Bytes)
  | 0, _, _ => none
  | fuel + 1, isFirst, text =>
    match skipBlanks text with
    | 0x7D :: rest => some ([], rest)
    | text =>
      let behind := if isFirst then some text else separator? text
      match (behind.map skipBlanks).bind key? with
      | some (key, rest) =>
        match value? fuel rest with
        | some (value, rest) =>
          (members? fuel false rest).map fun (members, rest) => ((key, value) :: members, rest)
        | none => none
      | none => none

end

/-- The document that a text is. -/
def parse? (text : Bytes) : Option Document :=
  match value? (text.length + 1) text with
  | some (d, rest) => if (skipBlanks rest).isEmpty then some d else none
  | none => none

end ProxyRouting.Config.Json
