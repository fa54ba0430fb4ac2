import ProxyRouting.Proofs.Selector.Selection

/-!
# What is remembered does not change the route of an exchange

Rules look at the host and port of a flow, and the identity of an exchange holds both. So what
a registry offers to one flow it offers to every other one of the same identity, and if
there is no choice, what is remembered for an exchange is what a fresh selector would select
(`select_exchange_eq_fresh`).

One pair of flows is an exception. A flow without a host has the identity of one whose host is
the empty text, and host patterns take the second one only. If the fallback was remembered for
the first one, it is given for the second one as well, in place of the candidate that takes it
(`fallback_remembered_without_host`).
-/

namespace ProxyRouting

/-! ### Flows that show less -/

/-- All that rules can see of a flow can be seen of another one. -/
structure Flow.ShowsIn (flow other : Flow) : Prop where
  /-- The ports are the same. -/
  port : flow.port = other.port
  /-- The host is the same, if there is one. -/
  host : flow.host = none ∨ flow.host = other.host

/-- Exchanges of one identity look the same to rules, unless one has no host and the other has
an empty one. -/
theorem Flow.showsIn_of_identity_eq {flow other : Flow}
    (same : flow.identity .exchange = other.identity .exchange)
    (hosts : flow.host = some [] → other.host ≠ none) : flow.ShowsIn other := by
  simp only [Flow.identity, Identity.mk.injEq, true_and] at same
  obtain ⟨-, host, port⟩ := same
  refine ⟨port, ?_⟩
  cases shown : flow.host with
  | none => exact Or.inl rfl
  | some text =>
    right
    rw [shown] at host
    cases shown' : other.host with
    | none =>
      rw [shown'] at host
      obtain rfl : text = [] := host
      exact absurd shown' (hosts shown)
    | some text' =>
      rw [shown'] at host
      exact congrArg some host

/-- A rule that takes a flow takes every flow that shows as much. -/
theorem Rule.accepts_of_showsIn {rule : Rule} {flow other : Flow} (less : flow.ShowsIn other)
    (accepts : rule.accepts flow = true) : rule.accepts other = true := by
  cases rule with
  | hostPattern pattern =>
    rcases less.host with hostless | same
    · simp only [Rule.accepts, hostless, Bool.false_eq_true] at accepts
    · simp only [Rule.accepts, ← same]
      exact accepts
  | port number =>
    simp only [Rule.accepts, ← less.port]
    exact accepts
  | fallback => rfl

theorem Proxy.accepts_of_showsIn {proxy : Proxy} {flow other : Flow} (less : flow.ShowsIn other)
    (accepts : proxy.accepts flow = true) : proxy.accepts other = true := by
  obtain ⟨rule, mem, takes⟩ := List.any_eq_true.1 accepts
  exact List.any_eq_true.2 ⟨rule, mem, Rule.accepts_of_showsIn less takes⟩

/-! ### What a registry offers -/

namespace Registry

variable {registry : Registry} {flow other : Flow} {proxy : Proxy}

/-- A flow of which nothing is remembered may get the proxy. -/
def Offers (registry : Registry) (flow : Flow) (proxy : Proxy) : Prop :=
  proxy ∈ registry.matching flow ∨ registry.matching flow = [] ∧ registry.fallback = some proxy

theorem offers_of_choose {g : Random.MersenneTwister}
    (chosen : (registry.choose flow g).1 = some proxy) : registry.Offers flow proxy := by
  rcases registry.choose_cases flow g with ⟨none, eq⟩ | ⟨candidate, mem, eq⟩
  · exact Or.inr ⟨none, eq.symm.trans chosen⟩
  · cases eq.symm.trans chosen
    exact Or.inl mem

/-- Where one candidate takes the flow at most, what is offered is the choice. -/
theorem choose_of_offers (few : (registry.matching flow).length ≤ 1)
    (offers : registry.Offers flow proxy) (g : Random.MersenneTwister) :
    (registry.choose flow g).1 = some proxy := by
  rw [choose_of_few few]
  rcases offers with mem | ⟨none, fallback⟩
  · have one := Nat.le_antisymm few (List.length_pos_of_mem mem)
    obtain ⟨only, eq⟩ := List.length_eq_one_iff.1 one
    rw [eq] at mem ⊢
    rw [List.mem_singleton.1 mem]
    rfl
  · rw [none]
    exact fallback

/-- A proxy that takes the flow and is offered to one that shows as much is offered to the flow. -/
theorem Offers.of_showsIn (offers : registry.Offers other proxy) (less : flow.ShowsIn other)
    (accepts : proxy.accepts flow = true) : registry.Offers flow proxy := by
  rcases offers with mem | ⟨none, fallback⟩
  · exact Or.inl (mem_matching.2 ⟨(mem_matching.1 mem).1, accepts⟩)
  · refine Or.inr ⟨List.eq_nil_iff_forall_not_mem.2 fun candidate mem => ?_, fallback⟩
    obtain ⟨isCandidate, takes⟩ := mem_matching.1 mem
    have taken : candidate ∈ registry.matching other :=
      mem_matching.2 ⟨isCandidate, Proxy.accepts_of_showsIn less takes⟩
    rw [none] at taken
    cases taken

end Registry

namespace Selector

open Affinity (Cache)

variable {s : Selector} {registry : Registry} {flow : Flow} {operation : Operation}
  {operations : List Operation} {asked : Flow → Prop}

/-! ### What is remembered for exchanges -/

/-- The registry is in force, and what is remembered for an exchange is what it offers to a flow
of that identity, one of those that were asked for. -/
structure Justified (s : Selector) (registry : Registry) (asked : Flow → Prop) : Prop where
  /-- The registry is in force. -/
  loaded : s.registry = some registry
  /-- There is a flow for what is remembered. -/
  offered : ∀ identity proxy, identity.scope = .exchange →
    s.affinity.find? identity = some proxy →
    ∃ earlier, asked earlier ∧ earlier.identity .exchange = identity ∧
      registry.Offers earlier proxy

theorem justified_reload (s : Selector) (registry : Registry) (asked : Flow → Prop) :
    (s.reload (some registry)).Justified registry asked := by
  refine ⟨rfl, fun identity proxy _ found => ?_⟩
  rw [Selector.reload, Cache.find?_clear] at found
  cases found

/-- Forgetting some of what is remembered needs no reasons. -/
theorem Justified.of_remembers_less {t : Selector} (justified : s.Justified registry asked)
    (same : t.registry = s.registry)
    (less : ∀ identity proxy, t.affinity.find? identity = some proxy →
      s.affinity.find? identity = some proxy) : t.Justified registry asked :=
  ⟨same.trans justified.loaded, fun identity proxy scope found =>
    justified.offered identity proxy scope (less identity proxy found)⟩

theorem Justified.select (justified : s.Justified registry asked) {scope : Scope}
    (isAsked : scope = .exchange → asked flow) :
    (s.select flow scope).2.Justified registry asked := by
  rcases select_cases justified.loaded flow scope with ⟨held, eq, -⟩ | ⟨-, eq⟩
  · rw [eq]
    exact justified
  · rw [eq]
    refine ⟨justified.loaded, fun identity proxy isExchange found => ?_⟩
    by_cases same : identity = flow.identity scope
    · -- What is remembered from now on was just chosen for this very flow.
      subst same
      obtain rfl : scope = .exchange := isExchange
      rw [find?_settle_self] at found
      exact ⟨flow, isAsked rfl, rfl, Registry.offers_of_choose found⟩
    · rw [find?_settle_of_ne _ _ same] at found
      exact justified.offered identity proxy isExchange found

theorem Justified.perform (justified : s.Justified registry asked)
    (keeps : ∀ configured, operation ≠ .reload configured)
    (isAsked : ∀ earlier, operation = .select earlier .exchange → asked earlier) :
    (s.perform operation).Justified registry asked := by
  cases operation with
  | reload configured => exact absurd rfl (keeps configured)
  | select flow scope => exact justified.select fun exchange => isAsked flow (by rw [exchange])
  | forget flow scope =>
    exact justified.of_remembers_less rfl fun _ _ => Cache.find?_of_find?_erase s.affinity
  | forgetClient client =>
    exact justified.of_remembers_less rfl fun _ _ => Cache.find?_of_find?_eraseClient s.affinity

theorem Justified.run (justified : s.Justified registry asked)
    (keeps : ∀ configured, .reload configured ∉ operations)
    (isAsked : ∀ earlier, .select earlier .exchange ∈ operations → asked earlier) :
    (s.run operations).Justified registry asked := by
  induction operations generalizing s with
  | nil => exact justified
  | cons operation rest ih =>
    refine ih (justified.perform ?_ ?_) ?_ ?_
    · rintro configured rfl
      exact keeps configured List.mem_cons_self
    · rintro earlier rfl
      exact isAsked earlier List.mem_cons_self
    · exact fun configured mem => keeps configured (List.mem_cons_of_mem _ mem)
    · exact fun earlier mem => isAsked earlier (List.mem_cons_of_mem _ mem)

/-! ### Main statement -/

/-- What is selected is what would be chosen if nothing were remembered. -/
theorem Justified.select_eq_choose (justified : s.Justified registry asked)
    (few : (registry.matching flow).length ≤ 1)
    (shown : ∀ earlier, asked earlier → earlier.identity .exchange = flow.identity .exchange →
      flow.ShowsIn earlier) (g : Random.MersenneTwister) :
    (s.select flow .exchange).1 = (registry.choose flow g).1 := by
  rcases select_cases justified.loaded flow .exchange with ⟨held, eq, found, -, accepts⟩ | ⟨-, eq⟩
  · obtain ⟨earlier, isAsked, same, offers⟩ := justified.offered _ held rfl found
    have offered := offers.of_showsIn (shown earlier isAsked same) accepts
    rw [eq, Registry.choose_of_offers few offered]
  · rw [eq]
    rw [Registry.choose_of_few few, Registry.choose_of_few few]

/-- **What is remembered does not change the route of an exchange.** After any selections and
any forgetting on a registry, an exchange that one candidate takes at most gets the proxy that it
gets from a fresh selector with the registry. If its host is the empty text, this holds if no
exchange without a host, from the same client to the same port, was asked for in between. -/
theorem select_exchange_eq_fresh (proxies : List Proxy) (source : Bytes) (s : Selector)
    (seed : UInt64) (keeps : ∀ configured, .reload configured ∉ operations)
    (few : ((Registry.build proxies source).1.matching flow).length ≤ 1)
    (shown : flow.host = some [] → ∀ earlier, .select earlier .exchange ∈ operations →
      earlier.client = flow.client → earlier.port = flow.port → earlier.host ≠ none) :
    ((s.run (.reload (some (proxies, source)) :: operations)).select flow .exchange).1 =
      (((ofSeed seed).run [.reload (some (proxies, source))]).select flow .exchange).1 := by
  have loaded (t : Selector) (asked : Flow → Prop) :=
    justified_reload t (Registry.build proxies source).1 asked
  have reused := (loaded s fun earlier => .select earlier .exchange ∈ operations).run keeps
    fun _ mem => mem
  have fresh := loaded (ofSeed seed) fun _ => False
  refine (reused.select_eq_choose few ?_ (ofSeed seed).generator).trans
    (fresh.select_eq_choose few ?_ (ofSeed seed).generator).symm
  · intro earlier mem same
    refine Flow.showsIn_of_identity_eq same.symm fun hostless => ?_
    have client : earlier.client = flow.client := congrArg Identity.client same
    have port : earlier.port = flow.port := congrArg Identity.port same
    exact shown hostless earlier mem client port
  · rintro _ ⟨⟩

/-- An exchange with the empty host, after flows without a host to another port and in a tunnel. -/
theorem select_exchange_eq_fresh_with_empty_host :
    (((ofSeed 1).run [
        .reload (some ([{ name := ascii "any", rules := [.hostPattern [asterisk]] },
          { name := ascii "rest", rules := [.fallback] }], [])),
        .select { port := some 443 } .exchange,
        .select { port := some 80 } .tunnel,
        .select { host := some (ascii "h"), port := some 80 } .exchange]).select
      { host := some [], port := some 80 } .exchange).1 =
    (((ofSeed 0).run [
        .reload (some ([{ name := ascii "any", rules := [.hostPattern [asterisk]] },
          { name := ascii "rest", rules := [.fallback] }], []))]).select
      { host := some [], port := some 80 } .exchange).1 := by
  refine select_exchange_eq_fresh _ _ (ofSeed 1) 0 ?_ (by decide) ?_
  · intro configured
    simp only [List.mem_cons, reduceCtorEq, List.not_mem_nil, or_self, not_false_eq_true]
  · rintro - earlier mem - port hostless
    simp only [List.mem_cons, Operation.select.injEq, reduceCtorEq, and_true, and_false,
      List.not_mem_nil, or_false, false_or] at mem
    rcases mem with rfl | rfl
    · cases port
    · cases hostless

/-- The fallback that was selected for a flow without a host is selected for the flow whose host
is empty, although a candidate takes that one, and a fresh selector selects the candidate. -/
theorem fallback_remembered_without_host :
    ((Registry.build [{ name := ascii "any", rules := [.hostPattern [asterisk]] },
        { name := ascii "rest", rules := [.fallback] }] []).1.matching
      { host := some [], port := some 80 }).length = 1 ∧
    (((ofSeed 0).run [
        .reload (some ([{ name := ascii "any", rules := [.hostPattern [asterisk]] },
          { name := ascii "rest", rules := [.fallback] }], [])),
        .select { port := some 80 } .exchange]).select
      { host := some [], port := some 80 } .exchange).1 =
        some { name := ascii "rest", rules := [.fallback] } ∧
    (((ofSeed 0).run [
        .reload (some ([{ name := ascii "any", rules := [.hostPattern [asterisk]] },
          { name := ascii "rest", rules := [.fallback] }], []))]).select
      { host := some [], port := some 80 } .exchange).1 =
        some { name := ascii "any", rules := [.hostPattern [asterisk]] } := by
  decide +kernel

end Selector

end ProxyRouting
