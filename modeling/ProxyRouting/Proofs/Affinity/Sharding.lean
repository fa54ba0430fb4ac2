import ProxyRouting.Proofs.Affinity.Placement

/-!
# Shards do not show

A cache answers as one map from identities to proxies would, whatever its hashes are: however
clients are spread over the shards, and also where different identities have one hash
(`shards_do_not_show`).

A tidy cache `Represents` a map if its entries are those of the map, in any order. Each operation,
done on both, is answered alike and keeps this, so a run from the empty cache and the empty map is.
What the map holds is told by the operations alone: for an identity the proxy that was
stored by the last operation that concerns it, and nothing if that operation removed it.
-/

namespace ProxyRouting.Affinity

/-! ### Operations -/

/-- What a cache is asked to do. -/
inductive Operation where
  /-- To remember a choice for an identity. -/
  | store (identity : Identity) (proxy : Proxy)
  /-- To give the proxy remembered for an identity. -/
  | find (identity : Identity)
  /-- To forget the choice for an identity. -/
  | erase (identity : Identity)
  /-- To forget all choices for a client. -/
  | eraseClient (client : Bytes)
  /-- To forget all choices. -/
  | clear
  deriving DecidableEq, Repr

/-- What an operation answers. -/
inductive Answer where
  /-- Nothing. -/
  | done
  /-- The proxy that is remembered, if one is. -/
  | found (proxy : Option Proxy)
  /-- Whether there was a choice to forget. -/
  | erased (was : Bool)
  /-- How many choices were forgotten for a client. -/
  | erasedClient (count : Nat)
  deriving DecidableEq, Repr

namespace Operation

/-- The operation decides what is remembered for an identity. -/
def concerns (identity : Identity) : Operation → Bool
  | store other _ => other = identity
  | find _ => false
  | erase other => other = identity
  | eraseClient client => identity.client = client
  | clear => true

/-- The proxy that the operation stores. -/
def stored? : Operation → Option Proxy
  | store _ proxy => some proxy
  | _ => none

end Operation

/-- The proxy that some operations stored last for an identity and did not remove since. -/
def lastStored? (identity : Identity) (operations : List Operation) : Option Proxy :=
  (operations.filter (·.concerns identity)).getLast?.bind (·.stored?)

theorem lastStored?_append_singleton (identity : Identity) (operations : List Operation)
    (operation : Operation) :
    lastStored? identity (operations ++ [operation]) =
      if operation.concerns identity then operation.stored?
      else lastStored? identity operations := by
  rw [lastStored?, List.filter_append]
  split_ifs with concerned
  · simp [concerned]
  · simp [concerned, lastStored?]

namespace Cache

/-- The cache after an operation. -/
def perform (cache : Cache) : Operation → Cache
  | .store identity proxy => cache.store identity proxy
  | .find _ => cache
  | .erase identity => cache.erase identity
  | .eraseClient client => cache.eraseClient client
  | .clear => cache.clear

/-- The answer to an operation. -/
def answer (cache : Cache) : Operation → Answer
  | .store _ _ => .done
  | .find identity => .found (cache.find? identity)
  | .erase identity => .erased (cache.find? identity).isSome
  | .eraseClient client => .erasedClient (cache.clientSize client)
  | .clear => .done

/-- The cache after some operations. -/
def run (cache : Cache) (operations : List Operation) : Cache := operations.foldl perform cache

/-- The answers to some operations, each with the size after it. -/
def views (cache : Cache) : List Operation → List (Answer × Nat)
  | [] => []
  | operation :: rest =>
    (cache.answer operation, (cache.perform operation).size) :: (cache.perform operation).views rest

end Cache

namespace FlatMap

/-- The map after an operation. -/
def perform (map : FlatMap) : Operation → FlatMap
  | .store identity proxy => map.store identity proxy
  | .find _ => map
  | .erase identity => map.erase identity
  | .eraseClient client => map.eraseClient client
  | .clear => []

/-- The answer to an operation. -/
def answer (map : FlatMap) : Operation → Answer
  | .store _ _ => .done
  | .find identity => .found (map.find? identity)
  | .erase identity => .erased (map.find? identity).isSome
  | .eraseClient client => .erasedClient (map.clientSize client)
  | .clear => .done

/-- The answers to some operations, each with the size after it. -/
def views (map : FlatMap) : List Operation → List (Answer × Nat)
  | [] => []
  | operation :: rest =>
    (map.answer operation, (map.perform operation).length) :: (map.perform operation).views rest

/-- In a map with distinct identities each of them is found with its proxy. -/
theorem find?_eq_some_iff {map : FlatMap} {identity : Identity} {proxy : Proxy}
    (nodup : (map.map (·.1)).Nodup) :
    map.find? identity = some proxy ↔ (identity, proxy) ∈ map := by
  rw [find?, List.lookup_eq_some_iff]
  constructor
  · rintro ⟨before, after, rfl, -⟩
    simp
  · intro mem
    obtain ⟨before, after, rfl⟩ := List.append_of_mem mem
    refine ⟨before, after, rfl, fun other isBefore => ?_⟩
    rw [List.map_append, List.map_cons, List.nodup_append] at nodup
    have ne := nodup.2.2 other.1 (List.mem_map_of_mem isBefore) identity List.mem_cons_self
    simpa using Ne.symm ne

end FlatMap

/-! ### Caches and the maps that they represent -/

/-- The choice that an entry remembers. -/
def Entry.choice (entry : Entry) : Identity × Proxy := (entry.identity, entry.proxy)

/-- The cache is tidy, and its entries are those of the map. -/
structure Represents (cache : Cache) (map : FlatMap) : Prop where
  /-- The cache is tidy. -/
  tidy : cache.Tidy
  /-- The entries are those of the map, in any order. -/
  perm : (cache.entries.map Entry.choice).Perm map

namespace Represents

variable {cache : Cache} {map : FlatMap}

/-! What is answered. -/

theorem nodup (represents : Represents cache map) : (map.map (·.1)).Nodup := by
  rw [← (represents.perm.map _).nodup_iff, List.map_map]
  exact represents.tidy.once

theorem find? (represents : Represents cache map) (identity : Identity) :
    cache.find? identity = map.find? identity := by
  ext proxy
  rw [represents.tidy.find?_eq_some_iff, FlatMap.find?_eq_some_iff represents.nodup,
    ← represents.perm.mem_iff, List.mem_map]
  simp only [Entry.choice, Prod.mk.injEq]

theorem size (represents : Represents cache map) : cache.size = map.length := by
  rw [Cache.size, ← represents.perm.length_eq, List.length_map]

theorem clientSize (represents : Represents cache map) (client : Bytes) :
    cache.clientSize client = map.clientSize client := by
  rw [represents.tidy.clientSize_eq, FlatMap.clientSize, ← represents.perm.countP_eq,
    List.countP_map]
  rfl

/-! What is kept. -/

theorem ofEmpty (hashing : Hashing) : Represents (.empty hashing) [] := by
  refine ⟨Cache.tidy_empty hashing, ?_⟩
  simp [Cache.empty, Cache.entries]

theorem erase (represents : Represents cache map) (identity : Identity) :
    Represents (cache.erase identity) (map.erase identity) := by
  refine ⟨represents.tidy.erase identity, ?_⟩
  rw [represents.tidy.entries_erase]
  have filtered := represents.perm.filter fun choice => decide (choice.1 ≠ identity)
  rw [List.filter_map] at filtered
  exact filtered

theorem store (represents : Represents cache map) (identity : Identity) (proxy : Proxy) :
    Represents (cache.store identity proxy) (map.store identity proxy) := by
  refine ⟨represents.tidy.store identity proxy, ?_⟩
  have stored := (cache.entries_store identity proxy).map Entry.choice
  exact stored.trans ((represents.erase identity).perm.cons (identity, proxy))

theorem eraseClient (represents : Represents cache map) (client : Bytes) :
    Represents (cache.eraseClient client) (map.eraseClient client) := by
  refine ⟨represents.tidy.eraseClient client, ?_⟩
  rw [represents.tidy.entries_eraseClient]
  have filtered := represents.perm.filter fun choice => decide (choice.1.client ≠ client)
  rw [List.filter_map] at filtered
  exact filtered

theorem answer (represents : Represents cache map) (operation : Operation) :
    cache.answer operation = map.answer operation := by
  cases operation with
  | store identity proxy => rfl
  | find identity => rw [Cache.answer, FlatMap.answer, represents.find?]
  | erase identity => rw [Cache.answer, FlatMap.answer, represents.find?]
  | eraseClient client => rw [Cache.answer, FlatMap.answer, represents.clientSize]
  | clear => rfl

theorem perform (represents : Represents cache map) (operation : Operation) :
    Represents (cache.perform operation) (map.perform operation) := by
  cases operation with
  | store identity proxy => exact represents.store identity proxy
  | find identity => exact represents
  | erase identity => exact represents.erase identity
  | eraseClient client => exact represents.eraseClient client
  | clear => exact ofEmpty cache.hashing

theorem views (represents : Represents cache map) (operations : List Operation) :
    cache.views operations = map.views operations := by
  induction operations generalizing cache map with
  | nil => rfl
  | cons operation rest ih =>
    have after := represents.perform operation
    rw [Cache.views, FlatMap.views, represents.answer, after.size, ih after]

end Represents

/-! ### Runs -/

namespace Cache

variable {cache : Cache}

theorem Tidy.perform (tidy : cache.Tidy) (operation : Operation) :
    (cache.perform operation).Tidy := by
  cases operation with
  | store identity proxy => exact tidy.store identity proxy
  | find identity => exact tidy
  | erase identity => exact tidy.erase identity
  | eraseClient client => exact tidy.eraseClient client
  | clear => exact cache.tidy_clear

theorem Tidy.run (tidy : cache.Tidy) (operations : List Operation) :
    (cache.run operations).Tidy := by
  induction operations generalizing cache with
  | nil => exact tidy
  | cons operation rest ih => exact ih (tidy.perform operation)

/-- What is remembered for an identity after an operation. -/
theorem find?_perform (cache : Cache) (operation : Operation) (identity : Identity) :
    (cache.perform operation).find? identity =
      if operation.concerns identity then operation.stored? else cache.find? identity := by
  cases operation with
  | store other proxy =>
    by_cases same : other = identity
    · subst same
      simp [perform, Operation.concerns, Operation.stored?, find?_store_self]
    · simp [perform, Operation.concerns, same, find?_store_of_ne _ _ (Ne.symm same)]
  | find other => simp [perform, Operation.concerns]
  | erase other =>
    by_cases same : other = identity
    · subst same
      simp [perform, Operation.concerns, Operation.stored?, find?_erase_self]
    · simp [perform, Operation.concerns, same, find?_erase_of_ne _ (Ne.symm same)]
  | eraseClient client =>
    by_cases same : identity.client = client
    · subst same
      simp [perform, Operation.concerns, Operation.stored?, find?_eraseClient_self]
    · simp [perform, Operation.concerns, same, find?_eraseClient_of_ne]
  | clear => simp [perform, Operation.concerns, Operation.stored?, find?_clear]

theorem find?_run (hashing : Hashing) (operations : List Operation) (identity : Identity) :
    ((empty hashing).run operations).find? identity = lastStored? identity operations := by
  induction operations using List.reverseRecOn with
  | nil => exact find?_empty hashing identity
  | append_singleton operations operation ih =>
    rw [lastStored?_append_singleton, ← ih, run, List.foldl_append]
    exact find?_perform _ operation identity

/-! ### Main statement -/

/-- **Shards do not show.** Whatever the hashes are, a run from the empty cache is answered as the
same run on one map, and has the same size after each operation. After any run something is
remembered for exactly those identities for which something was stored and not removed since, and
it is the proxy stored last. Erasing an identity tells whether it is among them; erasing a client
removes exactly its identities and tells how many they are; the size is the number of identities. -/
theorem shards_do_not_show (hashing : Hashing) (operations : List Operation) :
    (empty hashing).views operations = FlatMap.views [] operations ∧
    let cache := (empty hashing).run operations
    (∀ identity, cache.answer (.find identity) = .found (lastStored? identity operations)) ∧
    (∀ identity, identity ∈ cache.identities ↔
      (lastStored? identity operations).isSome = true) ∧
    (∀ identity, cache.answer (.erase identity) = .erased (decide (identity ∈ cache.identities))) ∧
    (∀ client, cache.answer (.eraseClient client) =
      .erasedClient (cache.identities.filter (·.client = client)).card) ∧
    (∀ client, (cache.perform (.eraseClient client)).identities =
      cache.identities.filter (·.client ≠ client)) ∧
    cache.size = cache.identities.card := by
  have tidy : ((empty hashing).run operations).Tidy := (tidy_empty hashing).run operations
  have found := find?_run hashing operations
  refine ⟨(Represents.ofEmpty hashing).views operations, ?_, ?_, ?_, ?_, ?_, tidy.size_eq_card⟩
  · intro identity
    rw [answer, found]
  · intro identity
    rw [tidy.mem_identities_iff, found]
  · intro identity
    simp [answer, tidy.mem_identities_iff]
  · intro client
    rw [answer, tidy.clientSize_eq_card]
  · intro client
    exact tidy.identities_eraseClient client

/-- Two clients that share a shard and a hash. -/
example :
    let one : Identity := ⟨.tunnel, ascii "one", ascii "h", none⟩
    let two : Identity := ⟨.tunnel, ascii "two", ascii "h", none⟩
    (empty ⟨fun _ => 7, fun _ => 7⟩).views
        [.store one { name := ascii "p" }, .store two { name := ascii "q" }, .find one,
          .eraseClient (ascii "one"), .find one, .find two] =
      [(.done, 1), (.done, 2), (.found (some { name := ascii "p" }), 2), (.erasedClient 1, 1),
        (.found none, 1), (.found (some { name := ascii "q" }), 1)] := by
  decide +kernel

end Cache

end ProxyRouting.Affinity
