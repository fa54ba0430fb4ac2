import ProxyRouting.Notice
import ProxyRouting.Proxy

/-!
# Registries

A registry is what a configuration comes to: the candidates, which take flows by
their rules, and at most one fallback. Of several proxies with one name the first is
kept, and of several fallbacks the last. A registry is never changed; a reload builds
another one.
-/

namespace ProxyRouting

/-- The proxies in force. -/
structure Registry where
  /-- Where they were configured. -/
  source : Bytes
  /-- The proxies that take flows by their rules. -/
  candidates : List Proxy := []
  /-- The proxy for flows that no candidate takes. -/
  fallback : Option Proxy := none
  deriving DecidableEq, Repr

namespace Registry

/-- All proxies of the registry. -/
def members (registry : Registry) : List Proxy := registry.candidates ++ registry.fallback.toList

/-- How many proxies the registry has. -/
def size (registry : Registry) : Nat := registry.members.length

/-- The proxy with a name. -/
def find? (registry : Registry) (name : Bytes) : Option Proxy :=
  registry.members.find? (·.name = name)

/-- The candidates that take a flow. -/
def matching (registry : Registry) (flow : Flow) : List Proxy :=
  registry.candidates.filter (·.accepts flow)

/-! ### Building -/

/-- The proxies whose name is neither among those `seen` nor that of an earlier one. -/
def distinct (seen : List Bytes) : List Proxy → List Proxy
  | [] => []
  | proxy :: rest =>
    if proxy.name ∈ seen then distinct seen rest
    else proxy :: distinct (proxy.name :: seen) rest

/-- Adds a proxy with a new name. -/
def add (registry : Registry) (proxy : Proxy) : Registry × List Notice :=
  if proxy.isFallback then
    ({ registry with fallback := some proxy },
      match registry.fallback with
      | some earlier => [.fallbackReplaced earlier.name proxy.name]
      | none => [])
  else ({ registry with candidates := registry.candidates ++ [proxy] }, [])

/-- Adds the proxies whose name was not seen before. -/
def addAll (registry : Registry) (seen : List Bytes) : List Proxy → Registry × List Notice
  | [] => (registry, [])
  | proxy :: rest =>
    if proxy.name ∈ seen then
      let (result, notices) := addAll registry seen rest
      (result, .duplicateName proxy.name :: notices)
    else
      let (registry, replaced) := registry.add proxy
      let (result, notices) := addAll registry (proxy.name :: seen) rest
      (result, replaced ++ notices)

/-- The registry of a list of proxies. -/
def build (proxies : List Proxy) (source : Bytes) : Registry × List Notice :=
  addAll { source } [] proxies

end Registry

end ProxyRouting
