import ProxyRouting.Affinity.Hashing
import ProxyRouting.Proxy

/-!
# The affinity cache

The cache remembers which proxy was chosen for an identity. Its entries are spread over
32 shards by the client's address, so that the entries of a client are found in one
shard when the client leaves. In a shard an identity has at most one entry.

`FlatMap` is the cache without shards and hashes: one list of identities with their
proxies.
-/

namespace ProxyRouting.Affinity

/-! ### Shards -/

/-- One remembered choice. -/
structure Entry where
  /-- The hash of the identity. -/
  hash : UInt64
  /-- The identity. -/
  identity : Identity
  /-- The proxy chosen for it. -/
  proxy : Proxy
  deriving DecidableEq, Repr

/-- The entry is that of an identity with a hash. -/
def Entry.isFor (entry : Entry) (hash : UInt64) (identity : Identity) : Bool :=
  entry.hash = hash && entry.identity = identity

/-- The entries of one shard. -/
abbrev Shard := List Entry

/-- How many shards there are. -/
abbrev shardCount : Nat := 32

/-! ### The cache -/

/-- Choices remembered by identity. -/
structure Cache where
  /-- The hashes by which entries are spread and compared. -/
  hashing : Hashing
  /-- The shards. -/
  shards : Vector Shard shardCount

namespace Cache

/-- The cache without entries. -/
def empty (hashing : Hashing) : Cache := ⟨hashing, Vector.replicate shardCount []⟩

/-- The shard for the entries of a client. -/
def shardOf (cache : Cache) (client : Bytes) : Fin shardCount :=
  ⟨(cache.hashing.client client).toNat % shardCount, Nat.mod_lt _ (by decide)⟩

/-- Changes the shard of a client. -/
def update (cache : Cache) (client : Bytes) (change : Shard → Shard) : Cache :=
  let i := cache.shardOf client
  { cache with shards := cache.shards.set i (change cache.shards[i]) }

/-- The proxy remembered for an identity. -/
def find? (cache : Cache) (identity : Identity) : Option Proxy :=
  let hash := cache.hashing.identity identity
  (cache.shards[cache.shardOf identity.client].find? (·.isFor hash identity)).map (·.proxy)

/-- Forgets the choice for an identity. -/
def erase (cache : Cache) (identity : Identity) : Cache :=
  let hash := cache.hashing.identity identity
  cache.update identity.client fun shard => shard.filter fun entry => !entry.isFor hash identity

/-- Remembers a choice for an identity in place of an earlier one. -/
def store (cache : Cache) (identity : Identity) (proxy : Proxy) : Cache :=
  let hash := cache.hashing.identity identity
  (cache.erase identity).update identity.client (⟨hash, identity, proxy⟩ :: ·)

/-- How many choices are remembered for a client. -/
def clientSize (cache : Cache) (client : Bytes) : Nat :=
  cache.shards[cache.shardOf client].countP (·.identity.client = client)

/-- Forgets all choices for a client. -/
def eraseClient (cache : Cache) (client : Bytes) : Cache :=
  cache.update client fun shard => shard.filter (·.identity.client ≠ client)

/-- Forgets all choices. -/
def clear (cache : Cache) : Cache := empty cache.hashing

/-- The entries of all shards. -/
def entries (cache : Cache) : List Entry := cache.shards.toList.flatten

/-- How many choices are remembered. -/
def size (cache : Cache) : Nat := cache.entries.length

end Cache

/-! ### The same without shards -/

/-- Choices by identity in one list, each identity at most once. -/
abbrev FlatMap := List (Identity × Proxy)

namespace FlatMap

/-- The proxy remembered for an identity. -/
def find? (map : FlatMap) (identity : Identity) : Option Proxy := map.lookup identity

/-- Forgets the choice for an identity. -/
def erase (map : FlatMap) (identity : Identity) : FlatMap := map.filter (·.1 ≠ identity)

/-- Remembers a choice for an identity in place of an earlier one. -/
def store (map : FlatMap) (identity : Identity) (proxy : Proxy) : FlatMap :=
  (identity, proxy) :: erase map identity

/-- How many choices are remembered for a client. -/
def clientSize (map : FlatMap) (client : Bytes) : Nat := map.countP (·.1.client = client)

/-- Forgets all choices for a client. -/
def eraseClient (map : FlatMap) (client : Bytes) : FlatMap := map.filter (·.1.client ≠ client)

end FlatMap

end ProxyRouting.Affinity
