import ProxyRouting.Proofs.Router.Configuration
import ProxyRouting.Proofs.Selector.Selection
import ProxyRouting.Proofs.Url.Parts

/-!
# What a router decides

A decision is that of the proxy which is selected, and whichever hook asks for it, the flow and the
scope are all that counts (`ask_eq`). The proxy's URL gives the address, and the address's scheme
says how the proxy's credentials are presented: in the negotiation of a tunnel, or as the value of
a header, and never as both (`credentials_on_one_channel`).
-/

namespace ProxyRouting

/-! ### The decision for a proxy -/

/-- What the decision for a proxy tells: where the proxy is, and its credentials, presented in the
one way that its scheme asks for. -/
structure Decision.Sound (d : Decision) : Prop where
  /-- The address is the one of the proxy's URL. -/
  via : ∃ url, Url.parse? d.proxy.url = some url ∧ d.via = ⟨url.scheme, url.host, url.port⟩
  /-- The scheme is supported. -/
  scheme : d.via.scheme = Scheme.http ∨ d.via.scheme = Scheme.https ∨ d.via.scheme = Scheme.socks5
  /-- The host is not empty. -/
  host : d.via.host ≠ []
  /-- The port is between 1 and 65535. -/
  port : 1 ≤ d.via.port.toNat ∧ d.via.port.toNat ≤ 65535
  /-- A tunnel is negotiated with the credentials, and no header is sent. -/
  tunnel : ∀ credentials, d.proxy.credentials? = some credentials →
    d.via.scheme = Scheme.socks5 →
    d.tunnelCredentials? = some credentials ∧ d.authorization? = none
  /-- Where there is no tunnel, a header is sent, and nothing is kept for a negotiation. -/
  header : ∀ credentials, d.proxy.credentials? = some credentials →
    d.via.scheme = Scheme.http ∨ d.via.scheme = Scheme.https →
    d.authorization? = some credentials.basicHeader ∧ d.tunnelCredentials? = none
  /-- A proxy without credentials gets none. -/
  bare : d.proxy.credentials? = none → d.authorization? = none ∧ d.tunnelCredentials? = none

namespace Proxy

variable {proxy : Proxy} {decision : Decision} {credentials : Credentials} {via : Address}

theorem decision?_eq_none_iff : proxy.decision? = none ↔ Url.parse? proxy.url = none := by
  rw [decision?, address?, Option.map_eq_none_iff, Option.map_eq_none_iff]

theorem decision?_eq_some_iff : proxy.decision? = some decision ↔
    ∃ url, Url.parse? proxy.url = some url ∧
      decision = ⟨proxy, url.toAddress, proxy.access url.toAddress⟩ := by
  rw [decision?, address?, Option.map_map, Option.map_eq_some_iff]
  constructor
  · rintro ⟨url, parses, rfl⟩
    exact ⟨url, parses, rfl⟩
  · rintro ⟨url, parses, rfl⟩
    exact ⟨url, parses, rfl⟩

theorem access_of_tunnel (has : proxy.credentials? = some credentials)
    (scheme : via.scheme = Scheme.socks5) : proxy.access via = .tunnel credentials := by
  simp [access, has, scheme, Scheme.isTunnel]

theorem access_of_header (has : proxy.credentials? = some credentials)
    (scheme : via.scheme ≠ Scheme.socks5) :
    proxy.access via = .header credentials.basicHeader := by
  simp [access, has, scheme, Scheme.isTunnel]

theorem access_of_none (none : proxy.credentials? = none) : proxy.access via = .bare := by
  simp [access, none]

/-- **The decision for a proxy is sound.** -/
theorem sound_of_decision? (decides : proxy.decision? = some decision) : decision.Sound := by
  obtain ⟨url, parses, rfl⟩ := decision?_eq_some_iff.1 decides
  have usable := Url.usable_of_parse? parses
  have bounded : url.port.toNat < 65536 := url.port.toNat_lt
  refine ⟨⟨url, parses, rfl⟩, usable.scheme, usable.host,
    ⟨usable.port, Nat.le_of_lt_succ bounded⟩, ?_, ?_, ?_⟩
  · intro credentials has tunnel
    have presented := access_of_tunnel has tunnel
    simp only [Decision.tunnelCredentials?, Decision.authorization?, presented, and_self]
  · intro credentials has scheme
    have noTunnel : url.toAddress.scheme ≠ Scheme.socks5 := by
      rcases scheme with http | https
      · rw [http]
        decide
      · rw [https]
        decide
    have presented := access_of_header has noTunnel
    simp only [Decision.tunnelCredentials?, Decision.authorization?, presented, and_self]
  · intro none
    have presented : proxy.access url.toAddress = .bare := access_of_none none
    simp only [Decision.tunnelCredentials?, Decision.authorization?, presented, and_self]

end Proxy

example : (Proxy.decision? { name := ascii "p", url := ascii "SOCKS5://ann:s%20t@[::1]/x" }).map
    (fun d => (d.via, d.access)) =
      some (⟨ascii "socks5", ascii "::1", 1080⟩, .tunnel ⟨ascii "ann", ascii "s t"⟩) := by
  decide +kernel

namespace Router

/-! ### Hooks -/

/-- The points at which a router is asked for a decision. -/
inductive Hook where
  /-- A request. -/
  | request
  /-- A CONNECT. -/
  | tunnelConnect
  /-- A WebSocket that opens. -/
  | webSocketStart
  deriving DecidableEq, Repr

/-- The scope in which a hook selects. -/
def Hook.scope : Hook → Flow → Scope
  | request, flow => flow.defaultScope
  | tunnelConnect, _ => .tunnel
  | webSocketStart, _ => .tunnel

/-- What comes of asking at a hook. -/
def ask (r : Router) : Hook → Flow → Option Decision × List Notice × Router
  | .request, flow => r.request flow
  | .tunnelConnect, flow => r.tunnelConnect flow
  | .webSocketStart, flow => r.webSocketStart flow

/-- The notice that a flow goes direct although a proxy was selected for it. -/
def unroutable : Option Proxy → List Notice
  | some proxy => if proxy.decision?.isNone then [.unroutable proxy.url proxy.name] else []
  | none => []

theorem route_eq (r : Router) (flow : Flow) (scope : Scope) :
    r.route flow scope =
      ((r.selector.select flow scope).1.bind Proxy.decision?,
        unroutable (r.selector.select flow scope).1, ⟨(r.selector.select flow scope).2⟩) := by
  unfold route
  rcases r.selector.select flow scope with ⟨_ | proxy, selector⟩
  · rfl
  · dsimp only [Option.bind_some, unroutable]
    cases proxy.decision? <;> rfl

/-- Every hook decides by what is selected in its scope. -/
theorem ask_eq (r : Router) (hook : Hook) (flow : Flow) :
    r.ask hook flow =
      ((r.selector.select flow (hook.scope flow)).1.bind Proxy.decision?,
        unroutable (r.selector.select flow (hook.scope flow)).1,
        ⟨(r.selector.select flow (hook.scope flow)).2⟩) := by
  cases hook <;> exact r.route_eq flow _

/-! ### Main statement -/

/-- **The decisions of a router**, whatever it was asked to do before. There is no decision exactly
if no proxy is selected, or one whose URL is none. A decision is for the proxy that was selected,
which belongs to the registry in force, and is sound: it has the address of the proxy's URL and
presents the proxy's credentials in one way at most, which the scheme settles. The hooks differ
only in the scope in which they select. -/
theorem credentials_on_one_channel (seed : UInt64) (operations : List Operation) (hook : Hook)
    (flow : Flow) :
    let r := (ofSeed seed).run operations
    let selected := (r.selector.select flow (hook.scope flow)).1
    ((r.ask hook flow).1 = none ↔
      selected = none ∨ ∃ proxy, selected = some proxy ∧ Url.parse? proxy.url = none) ∧
    (∀ decision, (r.ask hook flow).1 = some decision →
      selected = some decision.proxy ∧
      (∃ registry, r.selector.registry = some registry ∧ decision.proxy ∈ registry.members) ∧
      decision.Sound) ∧
    ∀ other : Hook, other.scope flow = hook.scope flow → r.ask other flow = r.ask hook flow := by
  intro r selected
  have decides : (r.ask hook flow).1 = selected.bind Proxy.decision? := by rw [ask_eq]
  refine ⟨?_, fun decision decided => ?_, fun other same => ?_⟩
  · rw [decides, Option.bind_eq_none_iff]
    cases selected with
    | none => simp
    | some proxy => simp [Proxy.decision?_eq_none_iff]
  · rw [decides] at decided
    obtain ⟨proxy, isSelected, ofProxy⟩ := Option.bind_eq_some_iff.1 decided
    have sound := Proxy.sound_of_decision? ofProxy
    obtain ⟨url, -, rfl⟩ := Proxy.decision?_eq_some_iff.1 ofProxy
    refine ⟨isSelected, ?_, sound⟩
    cases loaded : r.selector.registry with
    | none =>
      have nothing : selected = none := by simp only [selected, Selector.select, loaded]
      cases nothing.symm.trans isSelected
    | some registry =>
      refine ⟨registry, rfl, Registry.mem_members.2 ?_⟩
      rcases Selector.member_of_select loaded isSelected with fallback | candidate
      · exact Or.inr fallback
      · exact Or.inl (Registry.mem_matching.1 candidate).1
  · rw [ask_eq, ask_eq, same]

end Router

end ProxyRouting
