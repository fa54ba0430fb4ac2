import ProxyRouting.Credentials
import ProxyRouting.Proofs.Random.Weighted
import ProxyRouting.Selector

/-!
# Masked passwords

A masked proxy has a placeholder for its password, which tells only whether there is one and
whether it is empty. Nothing else is needed to say whether the proxy has credentials
(`isSome_credentials?_masked`), and to build a registry or to choose from it not even that: it is
the same to mask the proxies before or afterwards (`build_masked`, `choose_masked`), and the
notices do not tell the difference.
-/

namespace ProxyRouting

/-! ### Proxies -/

namespace Proxy

/-- A placeholder that is empty exactly if the password is. -/
def mask (password : Bytes) : Bytes := if password = [] then [] else [asterisk]

theorem mask_eq_nil_iff {password : Bytes} : mask password = [] ↔ password = [] := by
  simp [mask]

/-- The proxy with a placeholder for its password. -/
def masked (proxy : Proxy) : Proxy := { proxy with password := proxy.password.map mask }

variable (proxy : Proxy)

@[simp] theorem name_masked : proxy.masked.name = proxy.name := rfl

@[simp] theorem url_masked : proxy.masked.url = proxy.url := rfl

@[simp] theorem accepts_masked (flow : Flow) : proxy.masked.accepts flow = proxy.accepts flow := rfl

@[simp] theorem isFallback_masked : proxy.masked.isFallback = proxy.isFallback := rfl

/-- The password is empty, or missing, with the mask or without it. -/
theorem explicitCredentials_masked : proxy.masked.explicitCredentials =
    ⟨proxy.username.getD [], mask (proxy.password.getD [])⟩ := by
  unfold explicitCredentials masked
  cases proxy.password <;> rfl

/-- The mask does not hide whether there are credentials. -/
theorem isSome_credentials?_masked :
    proxy.masked.credentials?.isSome = proxy.credentials?.isSome := by
  have url : proxy.masked.urlCredentials? = proxy.urlCredentials? := rfl
  unfold credentials?
  rw [url, explicitCredentials_masked]
  cases proxy.urlCredentials? with
  | some credentials => rfl
  | none =>
    simp only [Option.getD_none, Credentials.complete?, explicitCredentials, mask_eq_nil_iff]
    by_cases incomplete : proxy.username.getD [] = [] ∨ proxy.password.getD [] = []
    · simp [incomplete]
    · simp [incomplete]

end Proxy

/-! ### Registries -/

namespace Registry

variable (registry : Registry)

/-- The registry with placeholders for all passwords. -/
def masked (registry : Registry) : Registry where
  source := registry.source
  candidates := registry.candidates.map Proxy.masked
  fallback := registry.fallback.map Proxy.masked

theorem members_masked : registry.masked.members = registry.members.map Proxy.masked := by
  unfold members masked
  cases registry.fallback <;> simp

theorem find?_masked (name : Bytes) :
    registry.masked.find? name = (registry.find? name).map Proxy.masked := by
  rw [find?, members_masked, List.find?_map]
  rfl

theorem matching_masked (flow : Flow) :
    registry.masked.matching flow = (registry.matching flow).map Proxy.masked :=
  List.filter_map

/-- The choice among masked proxies is the masked choice, and the same is drawn for it. -/
theorem choose_masked (flow : Flow) (g : Random.MersenneTwister) :
    registry.masked.choose flow g =
      ((registry.choose flow g).1.map Proxy.masked, (registry.choose flow g).2) := by
  unfold choose
  rw [matching_masked]
  match registry.matching flow with
  | [] => rfl
  | [proxy] => rfl
  | first :: second :: rest =>
    have chosen : Random.choose (·.weight.toUInt64)
        ((first :: second :: rest).map Proxy.masked) (by simp) g =
        ((Random.choose (·.weight.toUInt64) (first :: second :: rest) (by simp) g).1.masked,
          (Random.choose (·.weight.toUInt64) (first :: second :: rest) (by simp) g).2) :=
      Random.choose_map Proxy.masked (fun _ => rfl) (by simp) (by simp) g
    simp only [List.map_cons] at chosen ⊢
    rw [chosen]
    rfl

/-! ### Building -/

theorem add_masked (proxy : Proxy) : registry.masked.add proxy.masked =
    ((registry.add proxy).1.masked, (registry.add proxy).2) := by
  unfold add
  rw [Proxy.isFallback_masked]
  split
  · unfold masked
    cases registry.fallback <;> rfl
  · simp [masked]

theorem addAll_masked (seen : List Bytes) (proxies : List Proxy) :
    registry.masked.addAll seen (proxies.map Proxy.masked) =
      ((registry.addAll seen proxies).1.masked, (registry.addAll seen proxies).2) := by
  induction proxies generalizing registry seen with
  | nil => rfl
  | cons proxy rest ih =>
    simp only [List.map_cons, addAll, Proxy.name_masked, add_masked, ih]
    by_cases known : proxy.name ∈ seen
    · simp only [if_pos known]
    · simp only [if_neg known]

/-- The registry of masked proxies is the masked registry, and the same is noticed about it. -/
theorem build_masked (proxies : List Proxy) (source : Bytes) :
    build (proxies.map Proxy.masked) source =
      ((build proxies source).1.masked, (build proxies source).2) :=
  addAll_masked { source } [] proxies

end Registry

end ProxyRouting
