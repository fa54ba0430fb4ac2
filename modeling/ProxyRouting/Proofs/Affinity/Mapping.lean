import ProxyRouting.Affinity.Cache

/-!
# A cache does not look at its proxies

The cache compares hashes and identities, and hands the proxies out as they were stored. So a
function can be applied to all its proxies before an operation or after it: the entries are the
same (`map_store`, `map_erase`, `map_eraseClient`), and so is what is found (`find?_map`) and
counted (`clientSize_map`, `size_map`).
-/

namespace ProxyRouting.Affinity

/-- The entry with another proxy. -/
def Entry.map (f : Proxy → Proxy) (entry : Entry) : Entry := { entry with proxy := f entry.proxy }

namespace Cache

variable (f : Proxy → Proxy) (cache : Cache)

/-- The cache with other proxies. -/
def map (f : Proxy → Proxy) (cache : Cache) : Cache :=
  { cache with shards := cache.shards.map (List.map (Entry.map f)) }

/-! ### Answers -/

theorem getElem_shards_map (i : Fin shardCount) :
    (cache.map f).shards[i] = (cache.shards[i]).map (Entry.map f) :=
  Vector.getElem_map _ i.isLt

theorem find?_map (identity : Identity) :
    (cache.map f).find? identity = (cache.find? identity).map f := by
  show ((cache.map f).shards[cache.shardOf identity.client].find? _).map _ = _
  rw [getElem_shards_map, List.find?_map, find?, Option.map_map, Option.map_map]
  rfl

theorem clientSize_map (client : Bytes) : (cache.map f).clientSize client =
    cache.clientSize client := by
  show (cache.map f).shards[cache.shardOf client].countP _ = _
  rw [getElem_shards_map, List.countP_map]
  rfl

theorem entries_map : (cache.map f).entries = cache.entries.map (Entry.map f) := by
  show (cache.shards.map _).toList.flatten = _
  rw [Vector.toList_map, entries, List.map_flatten]

theorem size_map : (cache.map f).size = cache.size := by
  rw [size, entries_map, List.length_map, size]

/-! ### Changes -/

/-- A change of a shard before the function on the proxies, and its counterpart behind it. -/
theorem map_update {change change' : Shard → Shard}
    (commutes : ∀ shard : Shard,
      (change shard).map (Entry.map f) = change' (shard.map (Entry.map f)))
    (client : Bytes) :
    (cache.update client change).map f = (cache.map f).update client change' := by
  have changed := commutes cache.shards[cache.shardOf client]
  rw [← getElem_shards_map] at changed
  unfold update
  rw [map, Vector.map_set, changed]
  rfl

/-- A filter that does not look at the proxies. -/
theorem map_filter {kept : Entry → Bool} (blind : ∀ entry : Entry, kept (entry.map f) = kept entry)
    (shard : Shard) : (shard.filter kept).map (Entry.map f) =
      (shard.map (Entry.map f)).filter kept := by
  rw [List.filter_map]
  congr 2
  funext entry
  exact (blind entry).symm

theorem map_erase (identity : Identity) :
    (cache.erase identity).map f = (cache.map f).erase identity := by
  apply map_update
  intro shard
  exact map_filter f (fun _ => rfl) shard

theorem map_eraseClient (client : Bytes) :
    (cache.eraseClient client).map f = (cache.map f).eraseClient client := by
  apply map_update
  intro shard
  exact map_filter f (fun _ => rfl) shard

theorem map_store (identity : Identity) (proxy : Proxy) :
    (cache.store identity proxy).map f = (cache.map f).store identity (f proxy) := by
  unfold store
  rw [← map_erase]
  apply map_update
  intro shard
  rfl

theorem map_clear : cache.clear.map f = (cache.map f).clear := by
  simp [clear, empty, map]

end Cache

end ProxyRouting.Affinity
