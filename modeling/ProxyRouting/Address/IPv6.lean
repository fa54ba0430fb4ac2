import ProxyRouting.Address.IPv4
import ProxyRouting.Text.Percent

/-!
# IPv6 addresses

An IPv6 address is eight groups of sixteen bits. It is written as groups of one to
four hexadecimal digits with colons between them; a double colon, used at most
once, stands for one or more groups of zeros; and the last two groups may be
written together as an IPv4 address.
-/

namespace ProxyRouting

/-- An IPv6 address, group by group. -/
structure IPv6 where
  /-- The groups, the most significant one first. -/
  groups : List UInt16
  /-- There are eight of them. -/
  length_groups : groups.length = 8
  deriving DecidableEq, Repr

namespace IPv6

/-- The two bytes of a group, the high one first. -/
def groupBytes (group : UInt16) : Bytes := [(group >>> 8).toUInt8, group.toUInt8]

/-- The sixteen bytes of the address. -/
def bytes (address : IPv6) : Bytes := address.groups.flatMap groupBytes

/-- A group: one to four hexadecimal digits of either case. -/
def group? (text : Bytes) : Option UInt16 :=
  if text = [] ∨ 4 < text.length then none
  else
    text.foldl (fun group b =>
      match group, Percent.hexDigit? b with
      | some g, some digit => some (16 * g + digit.toUInt16)
      | _, _ => none) (some 0)

/-- The two groups that an IPv4 address fills. -/
def dottedGroups (address : IPv4) : List UInt16 :=
  [256 * address.a.toUInt16 + address.b.toUInt16, 256 * address.c.toUInt16 + address.d.toUInt16]

/-- The groups of a sequence of texts, each of which is one group. If `dotted` allows it, the last
text may also be an IPv4 address. -/
def sequence? (dotted : Bool) : List Bytes → Option (List UInt16)
  | [] => some []
  | [last] =>
    match group? last with
    | some g => some [g]
    | none => if dotted then (IPv4.parse? last).map dottedGroups else none
  | text :: rest =>
    match group? text, sequence? dotted rest with
    | some g, some gs => some (g :: gs)
    | _, _ => none

/-- The texts between the colons of one side of the double colon, which may be empty. -/
def side (text : Bytes) : List Bytes := if text = [] then [] else text.splitOn colon

/-- The groups on the two sides of a double colon with zeros between them, of which
there is at least one. -/
def fill? (left right : List UInt16) : Option IPv6 :=
  if h : left.length + right.length ≤ 7 then
    some {
      groups := left ++ List.replicate (8 - (left.length + right.length)) 0 ++ right
      length_groups := by simp; omega }
  else none

/-- The address written in `text`, if it is one. An IPv4 address may only stand at the end of the
text, so there is none before a double colon. -/
def parse? (text : Bytes) : Option IPv6 :=
  match cutText? [colon, colon] text with
  | some (left, right) =>
    match sequence? false (side left), sequence? true (side right) with
    | some l, some r => fill? l r
    | _, _ => none
  | none =>
    match sequence? true (text.splitOn colon) with
    | some gs => if h : gs.length = 8 then some ⟨gs, h⟩ else none
    | none => none

end IPv6

end ProxyRouting
