import Mathlib.Tactic.SplitIfs
import ProxyRouting.Affinity.Cache

/-!
# Looking up a remembered choice

What is remembered for an identity after each operation of the cache, whatever the hashes are:
identities of different clients may share a shard, and different identities may have one hash.
An operation changes what is remembered for the identities that it is about, and for no other.
-/

namespace ProxyRouting.Affinity

/-! ### Entries of a shard -/

theorem Entry.isFor_iff {entry : Entry} {hash : UInt64} {identity : Identity} :
    entry.isFor hash identity = true ↔ entry.hash = hash ∧ entry.identity = identity := by
  simp only [isFor, Bool.and_eq_true, decide_eq_true_eq]

/-- A filter that keeps the entries looked for does not change what is found. -/
theorem find?_filter_of_keeps {shard : Shard} {wanted kept : Entry → Bool}
    (keeps : ∀ entry, wanted entry = true → kept entry = true) :
    (shard.filter kept).find? wanted = shard.find? wanted := by
  rw [List.find?_filter]
  congr 1
  funext entry
  cases h : wanted entry with
  | false => simp
  | true => simp [keeps entry h]

/-- After a filter that drops the entries looked for nothing is found. -/
theorem find?_filter_of_drops {shard : Shard} {wanted kept : Entry → Bool}
    (drops : ∀ entry, wanted entry = true → kept entry = false) :
    (shard.filter kept).find? wanted = none := by
  refine List.find?_eq_none.2 fun entry mem isWanted => ?_
  have isKept := (List.mem_filter.1 mem).2
  rw [drops entry isWanted] at isKept
  cases isKept

namespace Cache

variable (cache : Cache) {identity other : Identity} {client : Bytes}

/-! ### Changes of one shard -/

/-- Only the shard of the client is changed. -/
theorem shards_update (client : Bytes) (change : Shard → Shard) (i : Fin shardCount) :
    (cache.update client change).shards.get i =
      if i = cache.shardOf client then change (cache.shards.get i) else cache.shards.get i := by
  show (cache.shards.set (cache.shardOf client)
    (change (cache.shards.get (cache.shardOf client))))[i] = _
  split_ifs with same
  · subst same
    exact Vector.getElem_set_self _
  · have ne : (cache.shardOf client : Nat) ≠ i := fun eq => same (Fin.ext eq.symm)
    exact Vector.getElem_set_ne _ _ ne

theorem find?_update_self (change : Shard → Shard) (identity : Identity) :
    (cache.update identity.client change).find? identity =
      ((change (cache.shards.get (cache.shardOf identity.client))).find?
        (·.isFor (cache.hashing.identity identity) identity)).map (·.proxy) := by
  show (((cache.update identity.client change).shards.get (cache.shardOf identity.client)).find?
    _).map _ = _
  rw [shards_update, if_pos rfl]
  rfl

/-- A change of a shard that keeps the entries of an identity keeps what is remembered for it. -/
theorem find?_update_of_keeps {change : Shard → Shard}
    (keeps : ∀ shard : Shard,
      (change shard).find? (·.isFor (cache.hashing.identity identity) identity) =
        shard.find? (·.isFor (cache.hashing.identity identity) identity)) :
    (cache.update client change).find? identity = cache.find? identity := by
  show (((cache.update client change).shards.get (cache.shardOf identity.client)).find?
    (·.isFor (cache.hashing.identity identity) identity)).map _ = _
  rw [shards_update]
  split_ifs
  · rw [keeps]
    rfl
  · rfl

/-! ### What is remembered after an operation -/

theorem find?_empty (hashing : Hashing) (identity : Identity) :
    (empty hashing).find? identity = none := by
  simp only [find?, empty, Fin.getElem_fin, Vector.getElem_replicate, List.find?_nil,
    Option.map_none]

theorem find?_clear (identity : Identity) : cache.clear.find? identity = none :=
  find?_empty cache.hashing identity

theorem entries_clear : cache.clear.entries = [] := by
  simp [clear, empty, entries]

theorem find?_erase_self (identity : Identity) : (cache.erase identity).find? identity = none := by
  rw [erase, find?_update_self, find?_filter_of_drops, Option.map_none]
  intro entry isFor
  rw [isFor]
  rfl

theorem find?_erase_of_ne (ne : other ≠ identity) :
    (cache.erase identity).find? other = cache.find? other := by
  refine cache.find?_update_of_keeps fun shard => find?_filter_of_keeps fun entry isFor => ?_
  have differs : entry.isFor (cache.hashing.identity identity) identity ≠ true :=
    fun isFor' => ne ((Entry.isFor_iff.1 isFor).2.symm.trans (Entry.isFor_iff.1 isFor').2)
  rw [Bool.eq_false_iff.2 differs]
  rfl

theorem find?_store_self (identity : Identity) (proxy : Proxy) :
    (cache.store identity proxy).find? identity = some proxy := by
  rw [store, find?_update_self, List.find?_cons_of_pos]
  · rfl
  · exact Entry.isFor_iff.2 ⟨rfl, rfl⟩

theorem find?_store_of_ne (proxy : Proxy) (ne : other ≠ identity) :
    (cache.store identity proxy).find? other = cache.find? other := by
  rw [← cache.find?_erase_of_ne ne]
  refine (cache.erase identity).find?_update_of_keeps fun shard => ?_
  rw [List.find?_cons_of_neg]
  exact fun isFor => ne (Entry.isFor_iff.1 isFor).2.symm

theorem find?_eraseClient_self (identity : Identity) :
    (cache.eraseClient identity.client).find? identity = none := by
  rw [eraseClient, find?_update_self, find?_filter_of_drops, Option.map_none]
  intro entry isFor
  rw [(Entry.isFor_iff.1 isFor).2]
  exact decide_eq_false fun ne => ne rfl

theorem find?_eraseClient_of_ne (ne : identity.client ≠ client) :
    (cache.eraseClient client).find? identity = cache.find? identity := by
  refine cache.find?_update_of_keeps fun shard => find?_filter_of_keeps fun entry isFor => ?_
  rw [(Entry.isFor_iff.1 isFor).2]
  exact decide_eq_true ne

/-- Nothing is remembered for an identity that was not remembered before its client left, and
nothing new for the others. -/
theorem find?_of_find?_eraseClient {proxy : Proxy}
    (found : (cache.eraseClient client).find? identity = some proxy) :
    cache.find? identity = some proxy := by
  by_cases same : identity.client = client
  · rw [← same, find?_eraseClient_self] at found
    cases found
  · rwa [find?_eraseClient_of_ne cache same] at found

theorem find?_of_find?_erase {proxy : Proxy}
    (found : (cache.erase other).find? identity = some proxy) :
    cache.find? identity = some proxy := by
  by_cases same : identity = other
  · rw [same, find?_erase_self] at found
    cases found
  · rwa [find?_erase_of_ne cache same] at found

end Cache

end ProxyRouting.Affinity
