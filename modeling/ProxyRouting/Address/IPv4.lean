import ProxyRouting.Text.Decimal

/-!
# IPv4 addresses

An IPv4 address is written as exactly four decimal numbers up to 255 with full
stops between them. A number has no leading zero, so an address has one spelling.
-/

namespace ProxyRouting

/-- An IPv4 address, octet by octet. -/
structure IPv4 where
  /-- The first octet. -/
  a : UInt8
  /-- The second octet. -/
  b : UInt8
  /-- The third octet. -/
  c : UInt8
  /-- The last octet. -/
  d : UInt8
  deriving DecidableEq, Repr

namespace IPv4

/-- The four bytes of the address. -/
def bytes (address : IPv4) : Bytes := [address.a, address.b, address.c, address.d]

/-- One of the four numbers: up to 255, with a leading zero only in `0` itself. -/
def octet? (text : Bytes) : Option UInt8 :=
  match Decimal.digits? text with
  | some n =>
    if n ≤ 255 ∧ (text = [0x30] ∨ text.head? ≠ some 0x30) then some (UInt8.ofNat n)
    else none
  | none => none

/-- The address written in `text`, if it is one. -/
def parse? (text : Bytes) : Option IPv4 :=
  match text.splitOn fullStop with
  | [a, b, c, d] =>
    match octet? a, octet? b, octet? c, octet? d with
    | some a, some b, some c, some d => some ⟨a, b, c, d⟩
    | _, _, _, _ => none
  | _ => none

end IPv4

end ProxyRouting
