import ProxyRouting.Text.Decimal

/-!
# Hosts with ports

A target is written as `host`, `host:port` or `[host]:port`. The brackets are for
hosts that hold colons themselves. The port is one to five digits between 1 and
65535; a host without a port gets the fallback port.

Without brackets a text with exactly one colon is a host and a port, and a text
with several colons is a host alone, so that a bare IPv6 address can be a target.
-/

namespace ProxyRouting

/-- A host and a port on it. -/
structure HostPort where
  /-- The name or address of the host. -/
  host : Bytes
  /-- The port. -/
  port : UInt16
  deriving DecidableEq, Repr

/-- A host with the text of its port, if one is written. -/
structure HostText where
  /-- The host. -/
  host : Bytes
  /-- What stands after the colon. -/
  port : Option Bytes
  deriving DecidableEq, Repr

namespace HostText

/-- The parts of `[host]` and `[host]:port`, given without the opening bracket. -/
def ofBracketed? (text : Bytes) : Option HostText :=
  match cutFirst? closeBracket text with
  | none => none
  | some (host, []) => some ⟨host, none⟩
  | some (host, b :: port) => if b = colon then some ⟨host, some port⟩ else none

/-- The parts of a text that is cut at its colon if it holds exactly one. -/
def ofOnlyColon (text : Bytes) : HostText :=
  match cutFirst? colon text with
  | some (host, port) => if colon ∈ port then ⟨text, none⟩ else ⟨host, some port⟩
  | none => ⟨text, none⟩

/-- The parts of a text that is cut at its last colon if it holds one. -/
def ofLastColon (text : Bytes) : HostText :=
  match cutLast? colon text with
  | some (host, port) => ⟨host, some port⟩
  | none => ⟨text, none⟩

/-- The parts of a text in brackets, or else those that `unbracketed` finds. -/
def read? (unbracketed : Bytes → HostText) : Bytes → Option HostText
  | openBracket :: text => ofBracketed? text
  | text => some (unbracketed text)

/-- The host and its port, or the fallback port if none is written. -/
def resolve? (text : HostText) (fallback : UInt16) : Option HostPort :=
  if text.host = [] then none
  else
    match text.port with
    | none => some ⟨text.host, fallback⟩
    | some digits => (Decimal.port? digits).map (⟨text.host, ·⟩)

end HostText

namespace HostPort

/-- The host and port of a target. -/
def parse? (text : Bytes) (fallback : UInt16) : Option HostPort :=
  match HostText.read? HostText.ofOnlyColon text with
  | some parts => parts.resolve? fallback
  | none => none

/-- Sets a target to the one that `text` stands for, and tells whether it stands for one. If it
does not, the target stays as it is. -/
def assign (target : HostPort) (text : Bytes) (fallback : UInt16) : Bool × HostPort :=
  match parse? text fallback with
  | some other => (true, other)
  | none => (false, target)

/-- `host:port`, the form in which a target is shown. A host with colons gets no
brackets. -/
def text (target : HostPort) : Bytes :=
  target.host ++ colon :: Decimal.ofNat target.port.toNat

end HostPort

end ProxyRouting
