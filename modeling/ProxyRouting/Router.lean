import ProxyRouting.Config.Load
import ProxyRouting.Credentials
import ProxyRouting.Selector

/-!
# Routing flows

A router has a selector and keeps it configured. It is asked at the points where a
surrounding program meets a flow, and answers with a decision: the proxy, where it is,
and how its credentials are presented. No decision means that the flow goes direct.

A configuration that cannot be used puts the router out of service; where there is no
configuration at all, the one in force stays.
-/

namespace ProxyRouting

/-- How credentials are presented to a proxy. -/
inductive Access where
  /-- There are none. -/
  | bare
  /-- As a `Proxy-Authorization` header with this value. -/
  | header (value : Bytes)
  /-- In the negotiation of the tunnel. -/
  | tunnel (credentials : Credentials)
  deriving DecidableEq, Repr

/-- Through which proxy a flow goes, and how. -/
structure Decision where
  /-- The proxy. -/
  proxy : Proxy
  /-- Where the proxy is. -/
  via : Address
  /-- How its credentials are presented. -/
  access : Access
  deriving DecidableEq, Repr

namespace Decision

/-- The value of the `Proxy-Authorization` header, if one is sent. -/
def authorization? (d : Decision) : Option Bytes :=
  match d.access with
  | .header value => some value
  | _ => none

/-- The credentials for the tunnel, if it needs some. -/
def tunnelCredentials? (d : Decision) : Option Credentials :=
  match d.access with
  | .tunnel credentials => some credentials
  | _ => none

end Decision

namespace Proxy

/-- How the proxy's credentials are presented at an address. -/
def access (proxy : Proxy) (via : Address) : Access :=
  match proxy.credentials? with
  | none => .bare
  | some credentials =>
    if Scheme.isTunnel via.scheme then .tunnel credentials else .header credentials.basicHeader

/-- The decision for the proxy, if its URL is usable. -/
def decision? (proxy : Proxy) : Option Decision :=
  proxy.address?.map fun via => { proxy, via, access := proxy.access via }

end Proxy

/-- A selector that is configured from directories. -/
structure Router where
  /-- The selector. -/
  selector : Selector

namespace Router

/-- A router without a configuration. -/
def ofSeed (seed : UInt64) : Router := ⟨.ofSeed seed⟩

/-! ### Configuring -/

/-- The router after a load, and the notices that it makes itself. -/
def adopt (r : Router) : Config.LoadResult → Router × List Notice
  | .noConfig => (r, [])
  | .failed _ _ =>
    (⟨r.selector.reload none⟩, if r.selector.loaded then [.configurationDiscarded] else [])
  | .loaded registry => (⟨r.selector.reload (some registry)⟩, [])

/-- Configures the router from the directory at a path. -/
def configure (r : Router) (lookup : Config.Lookup) (directory : Bytes) :
    Config.LoadResult × List Notice × Router :=
  let (result, loading) := Config.load lookup directory
  let (r, adopting) := r.adopt result
  (result, .loadingDirectory directory :: loading ++ adopting, r)

/-! ### Asking -/

/-- The decision for a flow in a scope. -/
def route (r : Router) (flow : Flow) (scope : Scope) :
    Option Decision × List Notice × Router :=
  let (choice, selector) := r.selector.select flow scope
  match choice with
  | none => (none, [], ⟨selector⟩)
  | some proxy =>
    match proxy.decision? with
    | some decision => (some decision, [], ⟨selector⟩)
    | none => (none, [.unroutable proxy.url proxy.name], ⟨selector⟩)

/-- The decision for a request. -/
def request (r : Router) (flow : Flow) : Option Decision × List Notice × Router :=
  r.route flow flow.defaultScope

/-- The decision for a CONNECT. -/
def tunnelConnect (r : Router) (flow : Flow) : Option Decision × List Notice × Router :=
  r.route flow .tunnel

/-- The decision for a WebSocket that opens. -/
def webSocketStart (r : Router) (flow : Flow) : Option Decision × List Notice × Router :=
  r.route flow .tunnel

/-- A WebSocket closes, and the choice for it is forgotten. -/
def webSocketEnd (r : Router) (flow : Flow) : Router := ⟨(r.selector.forget flow .tunnel).2⟩

/-- A client leaves; tells how many choices are forgotten. -/
def clientDisconnected (r : Router) (client : Bytes) : Nat × Router :=
  let (count, selector) := r.selector.forgetClient client
  (count, ⟨selector⟩)

end Router

end ProxyRouting
