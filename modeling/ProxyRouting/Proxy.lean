import ProxyRouting.Rule
import ProxyRouting.Url

/-!
# Proxies

A proxy has a name, a URL, a weight and rules. It takes the flows that meet at
least one of its rules, so a proxy without rules takes none. A proxy with a
fallback rule is a fallback.
-/

namespace ProxyRouting

/-- One configured proxy. -/
structure Proxy where
  /-- The name, which tells proxies apart. -/
  name : Bytes
  /-- The text of its URL, usable or not. -/
  url : Bytes := []
  /-- Its share among the proxies that take a flow. -/
  weight : UInt32 := 1
  /-- The rules. -/
  rules : List Rule := []
  /-- The user configured beside the URL. -/
  username : Option Bytes := none
  /-- The password configured beside the URL. -/
  password : Option Bytes := none
  deriving DecidableEq, Repr

namespace Proxy

/-- Whether the proxy takes a flow. -/
def accepts (proxy : Proxy) (flow : Flow) : Bool := proxy.rules.any (·.accepts flow)

/-- Whether the proxy is a fallback. -/
def isFallback (proxy : Proxy) : Bool := proxy.rules.any (· = .fallback)

/-- Where flows through the proxy are sent, if its URL is usable. -/
def address? (proxy : Proxy) : Option Address := (Url.parse? proxy.url).map (·.toAddress)

end Proxy

end ProxyRouting
