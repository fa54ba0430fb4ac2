import ProxyRouting.Bytes

/-!
# Flows and their identities

A flow is what is known of one connection of a client. The identity of a flow in a
scope is the part of it that routing remembers: flows with one identity are sent
through the same proxy. Exchanges are told apart by their target's port, tunnels
are not.
-/

namespace ProxyRouting

/-- The attributes of a flow that routing may look at. A host or port is missing
when the surrounding program could not tell it. -/
structure Flow where
  /-- The host that the client wants to reach. -/
  host : Option Bytes := none
  /-- The port that the client wants to reach. -/
  port : Option UInt16 := none
  /-- Whether the flow is a WebSocket. -/
  webSocket : Bool := false
  /-- The address of the client. -/
  client : Bytes := []
  deriving DecidableEq, Repr

/-- What a flow is part of. -/
inductive Scope where
  /-- A single request and its answer. -/
  | exchange
  /-- A session that stays open: CONNECT or WebSocket. -/
  | tunnel
  deriving DecidableEq, Repr

/-- The key under which a routing choice is remembered. -/
structure Identity where
  /-- The scope of the flow. -/
  scope : Scope
  /-- The address of the client. -/
  client : Bytes
  /-- The target's host, empty when it is missing. -/
  host : Bytes
  /-- The target's port, for exchanges that have one. -/
  port : Option UInt16
  deriving DecidableEq, Repr

namespace Flow

/-- A WebSocket is a tunnel, any other flow an exchange, if nothing else is said. -/
def defaultScope (flow : Flow) : Scope := if flow.webSocket then .tunnel else .exchange

/-- The identity of a flow in a scope. -/
def identity (flow : Flow) (scope : Scope) : Identity where
  scope := scope
  client := flow.client
  host := flow.host.getD []
  port := match scope with
    | .exchange => flow.port
    | .tunnel => none

end Flow

end ProxyRouting
