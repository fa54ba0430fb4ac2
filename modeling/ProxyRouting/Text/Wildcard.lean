import ProxyRouting.Bytes

/-!
# Wildcard patterns

A pattern is made of literal parts with asterisks between them. It matches a text
in which the parts occur in their order and without overlap; the asterisks stand
for what lies between, and text before the first part and after the last one is
allowed. Every byte but the asterisk stands for itself, and letter case counts.

`occurInOrder` takes each part at its first place after the one before it.
`Decomposes` says what is meant: some places exist.
-/

namespace ProxyRouting.Wildcard

/-- The literal parts of a pattern, some of them possibly empty. -/
def parts (pattern : Bytes) : List Bytes := pattern.splitOn asterisk

/-- Each part occurs after the end of the one before it. -/
def occurInOrder : List Bytes → Bytes → Bool
  | [], _ => true
  | part :: rest, text =>
    match cutText? part text with
    | some (_, after) => occurInOrder rest after
    | none => false

/-- Whether the pattern occurs in the text. -/
def occursIn (pattern text : Bytes) : Bool := occurInOrder (parts pattern) text

/-- The text is made of the parts in their order, with any bytes before, between
and after them. -/
inductive Decomposes : List Bytes → Bytes → Prop
  /-- Behind the last part anything may follow. -/
  | rest (text : Bytes) : Decomposes [] text
  /-- Some bytes, the next part, and what the other parts make up. -/
  | part {part : Bytes} {others : List Bytes} {text : Bytes} (skipped : Bytes) :
      Decomposes others text → Decomposes (part :: others) (skipped ++ part ++ text)

end ProxyRouting.Wildcard
