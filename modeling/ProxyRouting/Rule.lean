import ProxyRouting.Flow
import ProxyRouting.Text.Decimal
import ProxyRouting.Text.Wildcard

/-!
# Rules

A rule says which flows a proxy takes: those to hosts of a pattern, those to a port,
or, for the proxy that is the fallback, every flow. A flow without a host or port
does not meet a rule about it, and the empty pattern and port 0 are met by none.
-/

namespace ProxyRouting

/-- One rule of a proxy. -/
inductive Rule where
  /-- The target's host has the literal parts of a wildcard pattern. -/
  | hostPattern (pattern : Bytes)
  /-- The target has this port. -/
  | port (number : UInt16)
  /-- Any target; the proxy is the fallback. -/
  | fallback
  deriving DecidableEq, Repr

namespace Rule

/-- Whether a flow meets the rule. -/
def accepts : Rule → Flow → Bool
  | hostPattern pattern, flow =>
    match flow.host with
    | some host => pattern ≠ [] && Wildcard.occursIn pattern host
    | none => false
  | port number, flow => number ≠ 0 && flow.port = some number
  | fallback, _ => true

/-- The rule as it is shown. -/
def text : Rule → Bytes
  | hostPattern pattern => ascii "host_pattern(" ++ pattern ++ ascii ")"
  | port number => ascii "port(" ++ Decimal.ofNat number.toNat ++ ascii ")"
  | fallback => ascii "default"

end Rule

end ProxyRouting
