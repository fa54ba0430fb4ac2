import ProxyRouting.Proofs.Selector.Selection

/-!
# Choices stick

A proxy that was selected for an identity is selected for it again, by every flow that it takes,
until its choice is ended: by a reload, by the identity's or its client's being forgotten, or by a
flow of the identity that the proxy does not take. Every other operation `Spares` the
choice, whatever is drawn for other identities (`select_again`).

The choice `Stands` as long as it is remembered and the proxy is in force. This is what one
operation that spares it keeps, and what makes a later selection give the proxy.
-/

namespace ProxyRouting.Selector

/-- The operation does not end the choice of a proxy for an identity. -/
def Operation.Spares (identity : Identity) (proxy : Proxy) : Operation → Prop
  | .reload _ => False
  | .select flow scope => flow.identity scope = identity → proxy.accepts flow = true
  | .forget flow scope => identity ≠ flow.identity scope
  | .forgetClient client => identity.client ≠ client

instance (identity : Identity) (proxy : Proxy) : DecidablePred (Operation.Spares identity proxy)
  | .reload _ => inferInstanceAs (Decidable False)
  | .select flow scope =>
    inferInstanceAs (Decidable (flow.identity scope = identity → proxy.accepts flow = true))
  | .forget flow scope => inferInstanceAs (Decidable (identity ≠ flow.identity scope))
  | .forgetClient client => inferInstanceAs (Decidable (identity.client ≠ client))

/-- The choice of a proxy for an identity is remembered, and the proxy is in force. -/
structure Stands (s : Selector) (identity : Identity) (proxy : Proxy) : Prop where
  /-- The registry finds the proxy under its name. -/
  inForce : ∃ registry, s.registry = some registry ∧ registry.find? proxy.name = some proxy
  /-- The proxy is what is remembered for the identity. -/
  remembered : s.affinity.find? identity = some proxy

variable {s : Selector} {flow : Flow} {scope : Scope} {identity : Identity} {proxy : Proxy}
  {operation : Operation} {operations : List Operation}

/-- What was selected stands. -/
theorem stands_of_select (sound : s.Sound) (selected : (s.select flow scope).1 = some proxy) :
    (s.select flow scope).2.Stands (flow.identity scope) proxy := by
  have remembered : (s.select flow scope).2.affinity.find? (flow.identity scope) = some proxy := by
    rw [find?_select_self sound, selected]
  exact ⟨(sound.select flow scope).remembered _ _ remembered, remembered⟩

/-- While a choice stands, the flows of the identity that the proxy takes get the proxy, and
nothing else comes of it. -/
theorem Stands.select (stands : s.Stands identity proxy) (same : flow.identity scope = identity)
    (accepts : proxy.accepts flow = true) : s.select flow scope = (some proxy, s) := by
  obtain ⟨registry, loaded, found⟩ := stands.inForce
  have usable : s.remembered? registry flow (flow.identity scope) = some proxy := by
    rw [same]
    exact remembered?_eq_some_iff.2 ⟨stands.remembered, found, accepts⟩
  exact select_of_remembered loaded usable

/-- An operation that spares a choice leaves it standing. -/
theorem Stands.perform (stands : s.Stands identity proxy)
    (spares : operation.Spares identity proxy) : (s.perform operation).Stands identity proxy := by
  cases operation with
  | reload configured => exact spares.elim
  | select flow scope =>
    by_cases same : flow.identity scope = identity
    · simp only [Selector.perform, stands.select same (spares same)]
      exact stands
    · refine ⟨?_, ?_⟩
      · simp only [Selector.perform, registry_select]
        exact stands.inForce
      · simp only [Selector.perform, find?_select_of_ne (Ne.symm same)]
        exact stands.remembered
  | forget flow scope =>
    refine ⟨stands.inForce, ?_⟩
    exact (s.affinity.find?_erase_of_ne spares).trans stands.remembered
  | forgetClient client =>
    refine ⟨stands.inForce, ?_⟩
    exact (s.affinity.find?_eraseClient_of_ne spares).trans stands.remembered

theorem Stands.run (stands : s.Stands identity proxy)
    (spare : ∀ operation ∈ operations, operation.Spares identity proxy) :
    (s.run operations).Stands identity proxy := by
  induction operations generalizing s with
  | nil => exact stands
  | cons operation rest ih =>
    have first := stands.perform (spare operation List.mem_cons_self)
    exact ih first fun later mem => spare later (List.mem_cons_of_mem _ mem)

/-- **Choices stick.** A proxy that was selected for a flow, in any state that a run reaches, is
selected for every later flow of the same identity that it takes, if each operation in
between spares the choice. -/
theorem select_again (reachable : s.Reachable)
    (selected : (s.select flow scope).1 = some proxy)
    (spare : ∀ operation ∈ operations, operation.Spares (flow.identity scope) proxy)
    {later : Flow} {laterScope : Scope}
    (same : later.identity laterScope = flow.identity scope)
    (accepts : proxy.accepts later = true) :
    (((s.select flow scope).2.run operations).select later laterScope).1 = some proxy := by
  have stands := stands_of_select (sound_of_reachable reachable) selected
  rw [(stands.run spare).select same accepts]

/-- One of two proxies for a host is drawn for a client's tunnel. Then more is drawn, for another
client and for the client's exchange with the host, and forgotten again; the tunnel's next flow
goes to another port. -/
theorem select_again_after_other_draws :
    (((((ofSeed 0).run [.reload (some ([
        { name := ascii "a", weight := 3, rules := [.hostPattern (ascii "h")] },
        { name := ascii "b", weight := 1, rules := [.hostPattern (ascii "h")] }], []))]).select
      { host := some (ascii "h"), port := some 443, client := ascii "c" } .tunnel).2.run [
        .select { host := some (ascii "h"), client := ascii "d" } .tunnel,
        .select { host := some (ascii "h"), port := some 443, client := ascii "c" } .exchange,
        .forgetClient (ascii "d"),
        .forget { host := some (ascii "h"), port := some 443, client := ascii "c" } .exchange,
        .select { host := some (ascii "h"), port := some 22, client := ascii "c" } .tunnel]).select
      { host := some (ascii "h"), port := some 80, webSocket := true, client := ascii "c" }
        .tunnel).1 = some { name := ascii "a", weight := 3, rules := [.hostPattern (ascii "h")] } :=
  select_again ⟨0, _, rfl⟩ (by decide +kernel) (by decide +kernel) rfl (by decide +kernel)

end ProxyRouting.Selector
