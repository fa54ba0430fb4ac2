import Mathlib.Data.Finset.Card
import Mathlib.Data.Finset.Dedup
import ProxyRouting.Proofs.Affinity.Lookup

/-!
# Where entries lie

A cache is `Tidy` if each entry lies in the shard of its client, with the hash of its
identity, and no identity has two entries. An empty cache is tidy, and every operation
keeps a cache so.

An operation opens one shard only. In a tidy cache this comes to the same as going through the
entries of all shards: the others hold no entry of the client. So what is found and counted can be
told from the list of all entries (`find?_eq_some_iff`, `clientSize_eq`), and erasing is a filter
on it (`entries_erase`, `entries_eraseClient`). As each identity has one entry at most, counting
entries is counting `identities`.
-/

namespace ProxyRouting.Affinity.Cache

variable {cache : Cache} {identity : Identity} {proxy : Proxy} {client : Bytes} {entry : Entry}

/-! ### The entries of all shards -/

theorem mem_entries : entry ∈ cache.entries ↔ ∃ i, entry ∈ cache.shards.get i := by
  rw [entries, List.mem_flatten]
  constructor
  · rintro ⟨shard, mem, isIn⟩
    obtain ⟨i, lt, rfl⟩ := List.mem_iff_getElem.1 mem
    rw [Vector.length_toList] at lt
    exact ⟨⟨i, lt⟩, isIn⟩
  · rintro ⟨i, isIn⟩
    exact ⟨cache.shards.get i, Vector.mem_toList_iff.2 (Vector.getElem_mem i.isLt), isIn⟩

/-- The entries of the shards before that of a client. -/
def entriesBefore (cache : Cache) (client : Bytes) : List Entry :=
  (cache.shards.toList.take (cache.shardOf client)).flatten

/-- The entries of the shards behind that of a client. -/
def entriesBehind (cache : Cache) (client : Bytes) : List Entry :=
  (cache.shards.toList.drop (cache.shardOf client + 1)).flatten

theorem entries_update (cache : Cache) (client : Bytes) (change : Shard → Shard) :
    (cache.update client change).entries =
      cache.entriesBefore client ++
        (change (cache.shards.get (cache.shardOf client)) ++ cache.entriesBehind client) := by
  have lt : (cache.shardOf client : Nat) < cache.shards.toList.length := by
    rw [Vector.length_toList]
    exact (cache.shardOf client).isLt
  have shards : (cache.update client change).shards.toList =
      cache.shards.toList.take (cache.shardOf client) ++
        change (cache.shards.get (cache.shardOf client)) ::
          cache.shards.toList.drop (cache.shardOf client + 1) := by
    show (cache.shards.set _ _).toList = _
    rw [Vector.toList_set, List.set_eq_take_append_cons_drop, if_pos lt]
    rfl
  rw [entries, shards, List.flatten_append, List.flatten_cons]
  rfl

/-- The entries of all shards, with those of one client's shard in the middle. -/
theorem entries_eq (cache : Cache) (client : Bytes) :
    cache.entries =
      cache.entriesBefore client ++
        (cache.shards.get (cache.shardOf client) ++ cache.entriesBehind client) := by
  have same : cache.update client id = cache := by
    show { cache with shards := cache.shards.set _ _ } = cache
    simp
  calc cache.entries = (cache.update client id).entries := by rw [same]
    _ = _ := cache.entries_update client id

/-! ### Tidy caches -/

/-- Every entry can be found where it is looked for. -/
structure Tidy (cache : Cache) : Prop where
  /-- An entry lies in the shard of its client. -/
  placed : ∀ i, ∀ entry ∈ cache.shards.get i, cache.shardOf entry.identity.client = i
  /-- An entry has the hash of its identity. -/
  hashed : ∀ entry ∈ cache.entries, entry.hash = cache.hashing.identity entry.identity
  /-- No identity has two entries. -/
  once : (cache.entries.map (·.identity)).Nodup

namespace Tidy

/-- The other shards have no entries of the client. -/
theorem client_ne (tidy : cache.Tidy)
    (mem : entry ∈ cache.entriesBefore client ∨ entry ∈ cache.entriesBehind client) :
    entry.identity.client ≠ client := by
  rintro rfl
  rcases mem with mem | mem
  · obtain ⟨shard, isShard, isIn⟩ := List.mem_flatten.1 mem
    obtain ⟨i, lt, rfl⟩ := List.mem_iff_getElem.1 isShard
    simp only [List.length_take, Vector.length_toList, Nat.lt_min] at lt
    rw [List.getElem_take] at isIn
    have place := congrArg Fin.val (tidy.placed ⟨i, lt.2⟩ entry isIn)
    dsimp only at place
    omega
  · obtain ⟨shard, isShard, isIn⟩ := List.mem_flatten.1 mem
    obtain ⟨i, lt, rfl⟩ := List.mem_iff_getElem.1 isShard
    simp only [List.length_drop, Vector.length_toList] at lt
    rw [List.getElem_drop] at isIn
    have place := congrArg Fin.val (tidy.placed ⟨_, by omega⟩ entry isIn)
    dsimp only at place
    omega

theorem mem_shard (tidy : cache.Tidy) (mem : entry ∈ cache.entries) :
    entry ∈ cache.shards.get (cache.shardOf entry.identity.client) := by
  obtain ⟨i, isIn⟩ := mem_entries.1 mem
  rw [tidy.placed i entry isIn]
  exact isIn

theorem isFor_iff (tidy : cache.Tidy) (mem : entry ∈ cache.entries) (identity : Identity) :
    entry.isFor (cache.hashing.identity identity) identity = true ↔ entry.identity = identity := by
  rw [Entry.isFor_iff, tidy.hashed entry mem]
  constructor
  · rintro ⟨-, same⟩
    exact same
  · rintro rfl
    exact ⟨rfl, rfl⟩

/-- What is found for an identity is the proxy of its entry, wherever that lies. -/
theorem find?_eq_some_iff (tidy : cache.Tidy) :
    cache.find? identity = some proxy ↔
      ∃ entry ∈ cache.entries, entry.identity = identity ∧ entry.proxy = proxy := by
  rw [find?, Option.map_eq_some_iff]
  constructor
  · rintro ⟨entry, found, rfl⟩
    have mem := mem_entries.2 ⟨_, List.mem_of_find?_eq_some found⟩
    have isFor := List.find?_some found
    exact ⟨entry, mem, (tidy.isFor_iff mem identity).1 isFor, rfl⟩
  · rintro ⟨entry, mem, rfl, rfl⟩
    have isFor := (tidy.isFor_iff mem entry.identity).2 rfl
    have isSome := List.find?_isSome
      (p := (·.isFor (cache.hashing.identity entry.identity) entry.identity)).2
        ⟨entry, tidy.mem_shard mem, isFor⟩
    obtain ⟨other, found⟩ := Option.isSome_iff_exists.1 isSome
    -- What is found first is the same entry, because the identity has no other.
    have mem' := mem_entries.2 ⟨_, List.mem_of_find?_eq_some found⟩
    have isFor' := List.find?_some found
    have same := (tidy.isFor_iff mem' entry.identity).1 isFor'
    obtain rfl := List.inj_on_of_nodup_map tidy.once mem' mem same
    exact ⟨other, found, rfl⟩

theorem clientSize_eq (tidy : cache.Tidy) (client : Bytes) :
    cache.clientSize client = cache.entries.countP (·.identity.client = client) := by
  have before : (cache.entriesBefore client).countP (·.identity.client = client) = 0 := by
    apply List.countP_eq_zero.2
    intro entry mem
    simpa using tidy.client_ne (Or.inl mem)
  have behind : (cache.entriesBehind client).countP (·.identity.client = client) = 0 := by
    apply List.countP_eq_zero.2
    intro entry mem
    simpa using tidy.client_ne (Or.inr mem)
  rw [cache.entries_eq client, List.countP_append, List.countP_append, before, behind,
    Nat.zero_add, Nat.add_zero]
  rfl

/-! ### Operations -/

/-- A filter on the shard of a client that drops entries of this client only is a filter on all
entries. -/
theorem entries_update_filter (tidy : cache.Tidy) {kept : Entry → Bool}
    (keeps : ∀ entry : Entry, entry.identity.client ≠ client → kept entry = true) :
    (cache.update client fun shard => shard.filter kept).entries = cache.entries.filter kept := by
  have before : (cache.entriesBefore client).filter kept = cache.entriesBefore client := by
    apply List.filter_eq_self.2
    intro entry mem
    exact keeps entry (tidy.client_ne (Or.inl mem))
  have behind : (cache.entriesBehind client).filter kept = cache.entriesBehind client := by
    apply List.filter_eq_self.2
    intro entry mem
    exact keeps entry (tidy.client_ne (Or.inr mem))
  rw [cache.entries_update, cache.entries_eq client, List.filter_append, List.filter_append,
    before, behind]

theorem update_filter (tidy : cache.Tidy) {kept : Entry → Bool}
    (keeps : ∀ entry : Entry, entry.identity.client ≠ client → kept entry = true) :
    (cache.update client fun shard => shard.filter kept).Tidy := by
  have entries := tidy.entries_update_filter keeps
  refine ⟨fun i entry mem => ?_, fun entry mem => ?_, ?_⟩
  · rw [shards_update] at mem
    split_ifs at mem
    · exact tidy.placed i entry (List.mem_filter.1 mem).1
    · exact tidy.placed i entry mem
  · rw [entries] at mem
    exact tidy.hashed entry (List.mem_filter.1 mem).1
  · rw [entries]
    exact (List.filter_sublist.map _).nodup tidy.once

/-- An entry of another client is not that of the identity. -/
theorem not_isFor_of_client_ne (ne : entry.identity.client ≠ identity.client) (hash : UInt64) :
    (!entry.isFor hash identity) = true := by
  have differs : entry.isFor hash identity ≠ true := by
    intro isFor
    exact ne (congrArg Identity.client (Entry.isFor_iff.1 isFor).2)
  simp [differs]

theorem erase (tidy : cache.Tidy) (identity : Identity) : (cache.erase identity).Tidy :=
  tidy.update_filter fun _ ne => not_isFor_of_client_ne ne _

theorem entries_erase (tidy : cache.Tidy) (identity : Identity) :
    (cache.erase identity).entries = cache.entries.filter (·.identity ≠ identity) := by
  refine (tidy.entries_update_filter fun _ ne => not_isFor_of_client_ne ne _).trans ?_
  apply List.filter_congr
  intro entry mem
  rw [Bool.eq_iff_iff, Bool.not_eq_true', ← Bool.not_eq_true, tidy.isFor_iff mem,
    decide_eq_true_iff]

theorem eraseClient (tidy : cache.Tidy) (client : Bytes) : (cache.eraseClient client).Tidy :=
  tidy.update_filter fun _ ne => decide_eq_true ne

theorem entries_eraseClient (tidy : cache.Tidy) (client : Bytes) :
    (cache.eraseClient client).entries = cache.entries.filter (·.identity.client ≠ client) :=
  tidy.entries_update_filter fun _ ne => decide_eq_true ne

end Tidy

/-- Storing adds one entry to those that erasing leaves. -/
theorem entries_store (cache : Cache) (identity : Identity) (proxy : Proxy) :
    (cache.store identity proxy).entries.Perm
      (⟨cache.hashing.identity identity, identity, proxy⟩ :: (cache.erase identity).entries) := by
  rw [store, entries_update, (cache.erase identity).entries_eq identity.client]
  exact List.perm_middle

theorem Tidy.store (tidy : cache.Tidy) (identity : Identity) (proxy : Proxy) :
    (cache.store identity proxy).Tidy := by
  have erased := tidy.erase identity
  have perm := cache.entries_store identity proxy
  refine ⟨fun i entry mem => ?_, fun entry mem => ?_, ?_⟩
  · rw [Cache.store, shards_update] at mem
    split_ifs at mem with same
    · rcases List.mem_cons.1 mem with rfl | mem
      · exact same.symm
      · exact erased.placed i entry mem
    · exact erased.placed i entry mem
  · rcases List.mem_cons.1 (perm.mem_iff.1 mem) with rfl | mem
    · rfl
    · exact erased.hashed entry mem
  · rw [(perm.map _).nodup_iff, List.map_cons, List.nodup_cons]
    refine ⟨?_, erased.once⟩
    rw [tidy.entries_erase]
    simp

theorem tidy_empty (hashing : Hashing) : (empty hashing).Tidy := by
  have none : (empty hashing).entries = [] := by simp [empty, entries]
  refine ⟨fun i entry mem => ?_, ?_, ?_⟩
  · have isIn := mem_entries.2 ⟨i, mem⟩
    rw [none] at isIn
    cases isIn
  · simp [none]
  · simp [none]

theorem tidy_clear (cache : Cache) : cache.clear.Tidy := tidy_empty cache.hashing

/-! ### Identities -/

/-- The identities for which something is remembered. -/
def identities (cache : Cache) : Finset Identity := (cache.entries.map (·.identity)).toFinset

namespace Tidy

theorem mem_identities_iff (tidy : cache.Tidy) {identity : Identity} :
    identity ∈ cache.identities ↔ (cache.find? identity).isSome = true := by
  rw [identities, List.mem_toFinset, List.mem_map, Option.isSome_iff_exists]
  constructor
  · rintro ⟨entry, mem, rfl⟩
    exact ⟨entry.proxy, tidy.find?_eq_some_iff.2 ⟨entry, mem, rfl, rfl⟩⟩
  · rintro ⟨proxy, found⟩
    obtain ⟨entry, mem, same, -⟩ := tidy.find?_eq_some_iff.1 found
    exact ⟨entry, mem, same⟩

theorem size_eq_card (tidy : cache.Tidy) : cache.size = cache.identities.card := by
  rw [identities, List.toFinset_card_of_nodup tidy.once, List.length_map, size]

theorem clientSize_eq_card (tidy : cache.Tidy) (client : Bytes) :
    cache.clientSize client = (cache.identities.filter (·.client = client)).card := by
  have filtered : (cache.identities.filter (·.client = client)) =
      ((cache.entries.map (·.identity)).filter (·.client = client)).toFinset := by
    rw [List.toFinset_filter]
    simp [identities]
  rw [filtered, List.toFinset_card_of_nodup (tidy.once.filter _), tidy.clientSize_eq,
    ← List.countP_eq_length_filter, List.countP_map]
  rfl

theorem identities_eraseClient (tidy : cache.Tidy) (client : Bytes) :
    (cache.eraseClient client).identities = cache.identities.filter (·.client ≠ client) := by
  ext identity
  rw [(tidy.eraseClient client).mem_identities_iff, Finset.mem_filter, tidy.mem_identities_iff]
  by_cases same : identity.client = client
  · subst same
    simp [find?_eraseClient_self]
  · simp [find?_eraseClient_of_ne cache same, same]

/-- What is forgotten for a client and what is left make up the whole. -/
theorem clientSize_add_size_eraseClient (tidy : cache.Tidy) (client : Bytes) :
    cache.clientSize client + (cache.eraseClient client).size = cache.size := by
  rw [tidy.clientSize_eq_card, (tidy.eraseClient client).size_eq_card, tidy.size_eq_card,
    tidy.identities_eraseClient]
  exact Finset.card_filter_add_card_filter_not _

end Tidy

end ProxyRouting.Affinity.Cache
