import ProxyRouting.Proofs.Affinity.Lookup

/-!
# A cache as a client sees it

The entries of a client lie in one shard, with those of other clients. `entriesOf` is that shard
without the others. All that a cache answers about a client depends on these entries
alone, and an operation that is about one client changes those of no other, however the
clients are spread over the shards.

So two caches that `Agree` for some clients answer alike about them. Every operation, done on
both, keeps this, and so does an operation on one of them that is about none of these clients.
-/

namespace ProxyRouting.Affinity

/-- The entry belongs to a client. -/
def Entry.isOf (entry : Entry) (client : Bytes) : Bool := entry.identity.client = client

theorem Entry.isOf_iff {entry : Entry} {client : Bytes} :
    entry.isOf client = true ↔ entry.identity.client = client :=
  decide_eq_true_iff

/-- The entry of an identity belongs to the identity's client. -/
theorem Entry.isOf_of_isFor {entry : Entry} {hash : UInt64} {identity : Identity}
    (isFor : entry.isFor hash identity = true) : entry.isOf identity.client = true := by
  obtain ⟨-, same⟩ := Entry.isFor_iff.1 isFor
  rw [isOf_iff, same]

namespace Cache

variable (cache : Cache) {identity : Identity} {client other : Bytes}

/-- The entries of a client. -/
def entriesOf (cache : Cache) (client : Bytes) : List Entry :=
  (cache.shards.get (cache.shardOf client)).filter (·.isOf client)

/-! ### What is answered about a client -/

theorem find?_eq_find?_entriesOf (identity : Identity) :
    cache.find? identity =
      ((cache.entriesOf identity.client).find?
        (·.isFor (cache.hashing.identity identity) identity)).map (·.proxy) := by
  rw [entriesOf, find?_filter_of_keeps fun _ isFor => Entry.isOf_of_isFor isFor]
  rfl

theorem clientSize_eq_length_entriesOf (client : Bytes) :
    cache.clientSize client = (cache.entriesOf client).length :=
  List.countP_eq_length_filter

/-! ### The entries of a client after an operation -/

theorem entriesOf_update (change : Shard → Shard) (client other : Bytes) :
    (cache.update client change).entriesOf other =
      if cache.shardOf other = cache.shardOf client then
        (change (cache.shards.get (cache.shardOf other))).filter (·.isOf other)
      else cache.entriesOf other := by
  show ((cache.update client change).shards.get (cache.shardOf other)).filter _ = _
  rw [shards_update]
  split_ifs <;> rfl

/-- A change of a shard that keeps the entries of a client. -/
theorem entriesOf_update_of_keeps {change : Shard → Shard}
    (keeps : ∀ shard : Shard,
      (change shard).filter (·.isOf other) = shard.filter (·.isOf other)) :
    (cache.update client change).entriesOf other = cache.entriesOf other := by
  rw [entriesOf_update]
  split_ifs
  · exact keeps _
  · rfl

theorem entriesOf_clear (client : Bytes) : cache.clear.entriesOf client = [] := by
  have none : cache.clear.shards.get (cache.clear.shardOf client) = [] :=
    Vector.getElem_replicate _
  rw [entriesOf, none, List.filter_nil]

theorem entriesOf_erase_self (identity : Identity) :
    (cache.erase identity).entriesOf identity.client =
      (cache.entriesOf identity.client).filter
        fun entry => !entry.isFor (cache.hashing.identity identity) identity := by
  rw [erase, entriesOf_update, if_pos rfl, entriesOf, List.filter_filter, List.filter_filter]
  exact List.filter_congr fun entry _ => Bool.and_comm _ _

theorem entriesOf_erase_of_ne (ne : other ≠ identity.client) :
    (cache.erase identity).entriesOf other = cache.entriesOf other := by
  refine cache.entriesOf_update_of_keeps fun shard => ?_
  rw [List.filter_filter]
  refine List.filter_congr fun entry _ => ?_
  by_cases isOf : entry.isOf other = true
  · have differs : entry.isFor (cache.hashing.identity identity) identity ≠ true := fun isFor =>
      ne ((Entry.isOf_iff.1 isOf).symm.trans (Entry.isOf_iff.1 (Entry.isOf_of_isFor isFor)))
    simp [isOf, differs]
  · simp [isOf]

theorem entriesOf_store_self (identity : Identity) (proxy : Proxy) :
    (cache.store identity proxy).entriesOf identity.client =
      ⟨cache.hashing.identity identity, identity, proxy⟩ ::
        (cache.erase identity).entriesOf identity.client := by
  rw [store, entriesOf_update, if_pos rfl]
  exact List.filter_cons_of_pos (Entry.isOf_iff.2 rfl)

theorem entriesOf_store_of_ne (proxy : Proxy) (ne : other ≠ identity.client) :
    (cache.store identity proxy).entriesOf other = cache.entriesOf other := by
  rw [← cache.entriesOf_erase_of_ne ne]
  refine (cache.erase identity).entriesOf_update_of_keeps fun shard => ?_
  exact List.filter_cons_of_neg fun isOf => ne (Entry.isOf_iff.1 isOf).symm

theorem entriesOf_eraseClient_self (client : Bytes) :
    (cache.eraseClient client).entriesOf client = [] := by
  rw [eraseClient, entriesOf_update, if_pos rfl, List.filter_filter, List.filter_eq_nil_iff]
  intro entry _
  simp [Entry.isOf]

theorem entriesOf_eraseClient_of_ne (ne : other ≠ client) :
    (cache.eraseClient client).entriesOf other = cache.entriesOf other := by
  refine cache.entriesOf_update_of_keeps fun shard => ?_
  rw [List.filter_filter]
  refine List.filter_congr fun entry _ => ?_
  by_cases isOf : entry.isOf other = true
  · have kept : entry.identity.client ≠ client := by
      rw [Entry.isOf_iff.1 isOf]
      exact ne
    simp [isOf, kept]
  · simp [isOf]

/-! ### Caches that agree -/

/-- The caches use the same hashes and have the same entries of some clients. -/
structure Agree (clients : Bytes → Bool) (one two : Cache) : Prop where
  /-- The hashes are the same. -/
  hashing : one.hashing = two.hashing
  /-- The entries are the same. -/
  entries : ∀ client, clients client = true → one.entriesOf client = two.entriesOf client

namespace Agree

variable {clients : Bytes → Bool} {one two : Cache}

theorem refl (clients : Bytes → Bool) (cache : Cache) : Agree clients cache cache :=
  ⟨rfl, fun _ _ => rfl⟩

/-- They remember the same for these clients. -/
theorem find? (agree : Agree clients one two) (own : clients identity.client = true) :
    one.find? identity = two.find? identity := by
  rw [find?_eq_find?_entriesOf, find?_eq_find?_entriesOf, agree.hashing, agree.entries _ own]

theorem clientSize (agree : Agree clients one two) (own : clients client = true) :
    one.clientSize client = two.clientSize client := by
  rw [clientSize_eq_length_entriesOf, clientSize_eq_length_entriesOf, agree.entries _ own]

/-! An operation on both. -/

theorem clear (agree : Agree clients one two) : Agree clients one.clear two.clear :=
  ⟨agree.hashing, fun client _ => by rw [entriesOf_clear, entriesOf_clear]⟩

theorem erase (agree : Agree clients one two) (identity : Identity) :
    Agree clients (one.erase identity) (two.erase identity) := by
  refine ⟨agree.hashing, fun client own => ?_⟩
  by_cases same : client = identity.client
  · subst same
    rw [entriesOf_erase_self, entriesOf_erase_self, agree.hashing, agree.entries _ own]
  · rw [entriesOf_erase_of_ne _ same, entriesOf_erase_of_ne _ same, agree.entries _ own]

theorem store (agree : Agree clients one two) (identity : Identity) (proxy : Proxy) :
    Agree clients (one.store identity proxy) (two.store identity proxy) := by
  refine ⟨agree.hashing, fun client own => ?_⟩
  by_cases same : client = identity.client
  · subst same
    rw [entriesOf_store_self, entriesOf_store_self, agree.hashing,
      (agree.erase identity).entries _ own]
  · rw [entriesOf_store_of_ne _ _ same, entriesOf_store_of_ne _ _ same, agree.entries _ own]

theorem eraseClient (agree : Agree clients one two) (client : Bytes) :
    Agree clients (one.eraseClient client) (two.eraseClient client) := by
  refine ⟨agree.hashing, fun other own => ?_⟩
  by_cases same : other = client
  · subst same
    rw [entriesOf_eraseClient_self, entriesOf_eraseClient_self]
  · rw [entriesOf_eraseClient_of_ne _ same, entriesOf_eraseClient_of_ne _ same,
      agree.entries _ own]

/-! An operation on the first one, about another client. -/

theorem ne_of_foreign (foreign : clients client = false) (own : clients other = true) :
    other ≠ client := by
  rintro rfl
  rw [foreign] at own
  cases own

theorem erase_left (agree : Agree clients one two) (foreign : clients identity.client = false) :
    Agree clients (one.erase identity) two := by
  refine ⟨agree.hashing, fun client own => ?_⟩
  rw [entriesOf_erase_of_ne _ (ne_of_foreign foreign own), agree.entries _ own]

theorem store_left (agree : Agree clients one two) (proxy : Proxy)
    (foreign : clients identity.client = false) :
    Agree clients (one.store identity proxy) two := by
  refine ⟨agree.hashing, fun client own => ?_⟩
  rw [entriesOf_store_of_ne _ _ (ne_of_foreign foreign own), agree.entries _ own]

theorem eraseClient_left (agree : Agree clients one two) (foreign : clients client = false) :
    Agree clients (one.eraseClient client) two := by
  refine ⟨agree.hashing, fun other own => ?_⟩
  rw [entriesOf_eraseClient_of_ne _ (ne_of_foreign foreign own), agree.entries _ own]

end Agree

end Cache

end ProxyRouting.Affinity
