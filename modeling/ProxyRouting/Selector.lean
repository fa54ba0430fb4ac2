import ProxyRouting.Affinity.Cache
import ProxyRouting.Random.Weighted
import ProxyRouting.Registry

/-!
# Selecting a proxy

A selector gives the proxy for a flow. The proxy that was given for the flow's identity
before is given again as long as it takes the flow. Otherwise it is the candidate that
takes the flow, one of them by weight if there are several, and the fallback if there is
none. The choice is remembered.

A reload replaces the registry and forgets all choices, but the generator goes on.
-/

namespace ProxyRouting

/-- The registry in force, the choices made on it, and the generator for further ones. -/
structure Selector where
  /-- The registry, if one is loaded. -/
  registry : Option Registry
  /-- The remembered choices. -/
  affinity : Affinity.Cache
  /-- The generator. -/
  generator : Random.MersenneTwister

namespace Registry

/-- The proxy for a flow of which nothing is remembered. -/
def choose (registry : Registry) (flow : Flow) (g : Random.MersenneTwister) :
    Option Proxy × Random.MersenneTwister :=
  match registry.matching flow with
  | [] => (registry.fallback, g)
  | [proxy] => (some proxy, g)
  | first :: second :: rest =>
    let (proxy, g) := Random.choose (·.weight.toUInt64) (first :: second :: rest) (by simp) g
    (some proxy, g)

end Registry

namespace Selector

/-- A selector without a registry. -/
def ofSeed (seed : UInt64) : Selector where
  registry := none
  affinity := .empty .standard
  generator := .ofSeed seed

/-- Whether a registry is loaded. -/
def loaded (s : Selector) : Bool := s.registry.isSome

/-- Puts a registry in force, or none, and forgets all choices. -/
def reload (s : Selector) (registry : Option Registry) : Selector :=
  { s with registry, affinity := s.affinity.clear }

/-- The remembered proxy of an identity, if it belongs to the registry and takes the flow. -/
def remembered? (s : Selector) (registry : Registry) (flow : Flow) (identity : Identity) :
    Option Proxy :=
  match s.affinity.find? identity with
  | some proxy =>
    if registry.find? proxy.name = some proxy ∧ proxy.accepts flow then some proxy else none
  | none => none

/-- The proxy for a flow in a scope, and the selector that remembers it. -/
def select (s : Selector) (flow : Flow) (scope : Scope) : Option Proxy × Selector :=
  match s.registry with
  | none => (none, s)
  | some registry =>
    let identity := flow.identity scope
    match s.remembered? registry flow identity with
    | some proxy => (some proxy, s)
    | none =>
      let (choice, generator) := registry.choose flow s.generator
      let affinity :=
        match choice with
        | some proxy => s.affinity.store identity proxy
        | none => s.affinity.erase identity
      (choice, { s with affinity, generator })

/-- Forgets the choice for a flow in a scope, and tells whether there was one. -/
def forget (s : Selector) (flow : Flow) (scope : Scope) : Bool × Selector :=
  let identity := flow.identity scope
  ((s.affinity.find? identity).isSome, { s with affinity := s.affinity.erase identity })

/-- Forgets all choices for a client, and tells how many there were. -/
def forgetClient (s : Selector) (client : Bytes) : Nat × Selector :=
  (s.affinity.clientSize client, { s with affinity := s.affinity.eraseClient client })

end Selector

end ProxyRouting
