import ProxyRouting.Proofs.Affinity.Mapping
import ProxyRouting.Proofs.Registry.Masking
import ProxyRouting.Proofs.Selector.Runs

/-!
# Selecting among masked proxies

A selector whose passwords are masked selects the masked proxy, remembers it, and draws the same
(`select_masked`). Selecting compares what is remembered with the registry in force, passwords
included, and two proxies may become equal when they are masked; but in a sound selector what is
remembered is always a proxy of the registry, so the comparison does not tell a difference.
-/

namespace ProxyRouting.Selector

open Affinity (Cache)

variable {s : Selector} {registry : Registry}

/-- The selector with placeholders for all passwords. -/
def masked (s : Selector) : Selector where
  registry := s.registry.map Registry.masked
  affinity := s.affinity.map Proxy.masked
  generator := s.generator

theorem loaded_masked (s : Selector) : s.masked.loaded = s.loaded := Option.isSome_map

theorem size_masked (s : Selector) : s.masked.affinity.size = s.affinity.size :=
  s.affinity.size_map Proxy.masked

theorem reload_masked (s : Selector) (next : Option Registry) :
    s.masked.reload (next.map Registry.masked) = (s.reload next).masked := by
  unfold reload masked
  rw [Cache.map_clear]

/-! ### Selecting -/

/-- What a sound selector remembers is usable with the mask as without it. -/
theorem remembered?_masked (sound : s.Sound) (loaded : s.registry = some registry) (flow : Flow)
    (identity : Identity) :
    s.masked.remembered? registry.masked flow identity =
      (s.remembered? registry flow identity).map Proxy.masked := by
  have found' := s.affinity.find?_map Proxy.masked identity
  cases found : s.affinity.find? identity with
  | none =>
    rw [found] at found'
    simp only [remembered?, masked, found, found', Option.map_none]
  | some proxy =>
    obtain ⟨inForce, loaded', known⟩ := sound.remembered identity proxy found
    cases loaded.symm.trans loaded'
    -- The registry has this very proxy, so both comparisons succeed and the rules are left.
    have known' : registry.masked.find? proxy.name = some proxy.masked := by
      rw [Registry.find?_masked, known]
      rfl
    rw [found] at found'
    simp only [remembered?, masked, found, found', Option.map_some, Proxy.name_masked,
      Proxy.accepts_masked, known, known', true_and]
    split <;> rfl

theorem settle_masked (cache : Cache) (identity : Identity) (choice : Option Proxy) :
    settle (cache.map Proxy.masked) identity (choice.map Proxy.masked) =
      (settle cache identity choice).map Proxy.masked := by
  cases choice with
  | none => exact (cache.map_erase Proxy.masked identity).symm
  | some proxy => exact (cache.map_store Proxy.masked identity proxy).symm

/-- **The masked selector selects the masked proxy.** -/
theorem select_masked (sound : s.Sound) (flow : Flow) (scope : Scope) :
    s.masked.select flow scope =
      ((s.select flow scope).1.map Proxy.masked, (s.select flow scope).2.masked) := by
  cases loaded : s.registry with
  | none =>
    have unloaded : s.masked.registry = none := by simp [masked, loaded]
    simp only [select, loaded, unloaded, Option.map_none]
  | some registry =>
    have loaded' : s.masked.registry = some registry.masked := by simp [masked, loaded]
    have remembered' := remembered?_masked sound loaded flow (flow.identity scope)
    cases remembered : s.remembered? registry flow (flow.identity scope) with
    | some proxy =>
      rw [remembered] at remembered'
      rw [select_of_remembered loaded remembered, select_of_remembered loaded' remembered']
      rfl
    | none =>
      rw [remembered] at remembered'
      rw [select_of_not_remembered loaded remembered,
        select_of_not_remembered loaded' remembered']
      have chosen : registry.masked.choose flow s.masked.generator = _ :=
        registry.choose_masked flow s.generator
      have settled := settle_masked s.affinity (flow.identity scope)
        (registry.choose flow s.generator).1
      rw [chosen]
      simp only [masked] at settled ⊢
      rw [settled]

/-! ### Forgetting -/

theorem forget_masked (s : Selector) (flow : Flow) (scope : Scope) :
    s.masked.forget flow scope = ((s.forget flow scope).1, (s.forget flow scope).2.masked) := by
  have found := s.affinity.find?_map Proxy.masked (flow.identity scope)
  have erased := s.affinity.map_erase Proxy.masked (flow.identity scope)
  simp only [forget, masked, found, erased, Option.isSome_map]

theorem forgetClient_masked (s : Selector) (client : Bytes) :
    s.masked.forgetClient client =
      ((s.forgetClient client).1, (s.forgetClient client).2.masked) := by
  have counted := s.affinity.clientSize_map Proxy.masked client
  have erased := s.affinity.map_eraseClient Proxy.masked client
  simp only [forgetClient, masked, counted, erased]

end ProxyRouting.Selector
