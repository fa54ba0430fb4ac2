import ProxyRouting.Proofs.Config.Validity
import ProxyRouting.Proofs.Random.Weighted
import ProxyRouting.Proofs.Selector.Isolation

/-!
# Drawing among configured proxies

A selection draws a proxy by weight where several candidates take the flow. The proxies of a
configured registry are valid, so fewer than 2³³ of them have weights whose sum fits a word: the
total is the sum that is meant, a roll can be drawn below it, and the walk finds the proxy into
whose weight the roll falls (`weighted_choices_are_exact`). Selecting and forgetting keep the
registry, so this holds of every selection until the next reload.
-/

namespace ProxyRouting

/-- The weight of a proxy among others, as a word. -/
abbrev Proxy.share (proxy : Proxy) : UInt64 := proxy.weight.toUInt64

namespace Registry

variable {registry : Registry} {flow : Flow} {g : Random.MersenneTwister}

/-- The roll among the candidates that take a flow, and the generator after it. -/
def roll (registry : Registry) (flow : Flow) (g : Random.MersenneTwister) :
    UInt64 × Random.MersenneTwister :=
  Random.uniform (Random.totalWeight Proxy.share (registry.matching flow)) g

/-- Where several candidates take the flow, the one is chosen that the roll falls into. -/
theorem choose_of_several (several : 2 ≤ (registry.matching flow).length)
    (falls : (Random.itemAt? Proxy.share (registry.roll flow g).1
      (registry.matching flow)).isSome = true) :
    registry.choose flow g =
      (Random.itemAt? Proxy.share (registry.roll flow g).1 (registry.matching flow),
        (registry.roll flow g).2) := by
  unfold roll at falls ⊢
  unfold choose
  split
  · next none =>
    rw [none] at several
    simp at several
  · next only one =>
    rw [one] at several
    simp at several
  · next first second rest all =>
    rw [all] at falls ⊢
    obtain ⟨proxy, found⟩ := Option.isSome_iff_exists.1 falls
    simp only [Random.choose, found, Option.getD_some]

/-- The weights of fewer than 2³³ valid candidates have a sum that fits a word. -/
theorem span_matching_lt (valid : ∀ proxy ∈ registry.members, proxy.Valid)
    (few : registry.candidates.length < 8589934592) (flow : Flow) :
    Random.span Proxy.share (registry.matching flow) < UInt64.size := by
  have fewer : (registry.matching flow).length ≤ registry.candidates.length :=
    List.length_filter_le _ _
  have bounded : ∀ proxy ∈ registry.matching flow, proxy.share.toNat ≤ Proxy.maxWeight := by
    intro proxy mem
    have ofRegistry := mem_members.2 (Or.inl (mem_matching.1 mem).1)
    rw [UInt32.toNat_toUInt64]
    exact (valid proxy ofRegistry).weight_le
  calc Random.span Proxy.share (registry.matching flow)
      ≤ (registry.matching flow).length * Proxy.maxWeight := Random.span_le bounded
    _ ≤ 8589934591 * Proxy.maxWeight := Nat.mul_le_mul_right _ (by omega)
    _ < UInt64.size := by decide

/-- A roll among several valid candidates is exact. -/
theorem exact_roll (valid : ∀ proxy ∈ registry.members, proxy.Valid)
    (few : registry.candidates.length < 8589934592) (several : 2 ≤ (registry.matching flow).length)
    (g : Random.MersenneTwister) :
    Random.Exact Proxy.share (registry.matching flow) (registry.roll flow g).1 := by
  refine Random.exact_of_fits several (fun proxy mem => ?_) (span_matching_lt valid few flow) g
  have ofRegistry := mem_members.2 (Or.inl (mem_matching.1 mem).1)
  rw [UInt32.toNat_toUInt64]
  exact (valid proxy ofRegistry).weight_pos

end Registry

namespace Selector

variable {s : Selector} {registry : Registry} {operations : List Operation}

/-- Only a reload changes the registry in force. -/
theorem registry_run (keeps : ∀ configured, .reload configured ∉ operations) :
    (s.run operations).registry = s.registry := by
  induction operations generalizing s with
  | nil => rfl
  | cons operation rest ih =>
    have later : ∀ configured, .reload configured ∉ rest := fun configured mem =>
      keeps configured (List.mem_cons_of_mem _ mem)
    have first : (s.perform operation).registry = s.registry := by
      cases operation with
      | reload configured => exact absurd List.mem_cons_self (keeps configured)
      | select flow scope => exact registry_select s flow scope
      | forget flow scope => rfl
      | forgetClient client => rfl
    exact (ih later).trans first

/-- What a selection draws: nothing, and then the generator stays as it is; or one exact weighted
choice among the candidates that take the flow, and then the proxy is selected that the roll
falls into. -/
def SelectsExactly (s : Selector) (registry : Registry) (flow : Flow) (scope : Scope) : Prop :=
  let candidates := registry.matching flow
  let roll := registry.roll flow s.generator
  (s.draws (.select flow scope) = false ∧ (s.select flow scope).2.generator = s.generator) ∨
    (s.draws (.select flow scope) = true ∧ Random.Exact Proxy.share candidates roll.1 ∧
      (s.select flow scope).1 = Random.itemAt? Proxy.share roll.1 candidates ∧
      (s.select flow scope).2.generator = roll.2)

/-- With valid candidates, whatever is remembered and wherever the generator stands. -/
theorem selectsExactly (loaded : s.registry = some registry)
    (valid : ∀ proxy ∈ registry.members, proxy.Valid)
    (few : registry.candidates.length < 8589934592) (flow : Flow) (scope : Scope) :
    s.SelectsExactly registry flow scope := by
  cases draws : s.draws (.select flow scope) with
  | false => exact Or.inl ⟨draws, generator_perform draws⟩
  | true =>
    obtain ⟨nothing, several⟩ : s.remembered? registry flow (flow.identity scope) = none ∧
        2 ≤ (registry.matching flow).length := by
      simpa [Selector.draws, loaded] using draws
    have exact_roll := registry.exact_roll valid few several s.generator
    have chosen := Registry.choose_of_several several exact_roll.falls
    have selected := select_of_not_remembered loaded nothing
    rw [chosen] at selected
    refine Or.inr ⟨draws, exact_roll, ?_, ?_⟩
    · rw [selected]
    · rw [selected]

/-! ### Main statement -/

/-- **The weighted choices of a configured registry are exact.** If a document gives some proxies,
those of the registry that is built of them have weights between 1 and 2³¹ - 1, ports between 1
and 65535, and patterns that are not empty. If the registry has fewer than 2³³ candidates, then
until another one is loaded every selection on it draws nothing, or makes one weighted choice: among
at least two candidates, with a total of at least two that has not wrapped around, and by a walk
that never subtracts more than what is left of the roll and ends with a candidate. -/
theorem weighted_choices_are_exact {d : Document} {proxies : List Proxy}
    (reads : (Config.readProxies d).1 = .ok proxies) (source : Bytes) :
    let registry := (Registry.build proxies source).1
    (∀ proxy ∈ registry.members,
      1 ≤ proxy.weight.toNat ∧ proxy.weight.toNat ≤ 2147483647 ∧
      (∀ number, .port number ∈ proxy.rules → 1 ≤ number.toNat ∧ number.toNat ≤ 65535) ∧
      ∀ pattern, .hostPattern pattern ∈ proxy.rules → pattern ≠ []) ∧
    (registry.candidates.length < 8589934592 →
      ∀ s : Selector, s.registry = some registry →
      ∀ operations, (∀ configured, .reload configured ∉ operations) →
      ∀ flow scope, (s.run operations).SelectsExactly registry flow scope) := by
  intro registry
  have valid : ∀ proxy ∈ registry.members, proxy.Valid :=
    fun proxy mem => Registry.valid_of_mem_build reads mem
  refine ⟨fun proxy mem => ?_, fun few s loaded operations keeps flow scope => ?_⟩
  · obtain ⟨pos, le, rules⟩ := valid proxy mem
    exact ⟨pos, le, fun _ isRule => rules _ isRule, fun _ isRule => rules _ isRule⟩
  · have still : (s.run operations).registry = some registry := (registry_run keeps).trans loaded
    exact selectsExactly still valid few flow scope

/-- A document with three proxies for port 80: one with the greatest weight, one whose weight is
no number, and one whose weight is too small. -/
def portDocument : Document :=
  let rules := (ascii "rules", .sequence [.mapping [(ascii "type", .scalar (ascii "port")),
    (ascii "port", .scalar (ascii "80"))]])
  let entry := fun name weight => .mapping [(ascii "name", .scalar name), (ascii "url", .scalar []),
    (ascii "weight", .scalar weight), rules]
  .mapping [(ascii "proxies", .sequence
    [entry (ascii "a") (ascii " 2147483647"), entry (ascii "b") (ascii "many"),
      entry (ascii "c") (ascii "0")])]

/-- The first two of the three are in force, and the choice between them is exact, also after
another flow has drawn. -/
theorem weighted_choices_are_exact_for_port_80 :
    let a : Proxy := { name := ascii "a", weight := 2147483647, rules := [.port 80] }
    let b : Proxy := { name := ascii "b", weight := 1, rules := [.port 80] }
    let registry := (Registry.build [a, b] []).1
    let s := ((ofSeed 7).reload (some registry)).run [.select { port := some 80 } .tunnel]
    Random.Exact Proxy.share [a, b] (registry.roll { port := some 80 } s.generator).1 := by
  intro a b registry s
  have reads : (Config.readProxies portDocument).1 = .ok [a, b] := by decide +kernel
  obtain ⟨-, exact_until_reload⟩ := weighted_choices_are_exact reads []
  have selects := exact_until_reload (by decide) ((ofSeed 7).reload (some registry)) rfl
    [.select { port := some 80 } .tunnel] (by simp) { port := some 80 } .exchange
  rcases selects with ⟨quiet, -⟩ | ⟨-, isExact, -⟩
  · exact absurd quiet (by decide +kernel)
  · exact isExact

end Selector

end ProxyRouting
