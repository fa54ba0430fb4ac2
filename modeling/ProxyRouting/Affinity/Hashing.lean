import ProxyRouting.Flow

/-!
# Hashes of identities

The affinity cache spreads its entries by the client's address and tells identities
apart by their hash before it compares them. Which hashes are used has no influence on
what the cache answers; the standard ones are FNV-1a on bytes, mixed for the parts of
an identity.
-/

namespace ProxyRouting.Affinity

/-- The hashes that a cache uses. -/
structure Hashing where
  /-- The hash of a client's address. -/
  client : Bytes → UInt64
  /-- The hash of an identity. -/
  identity : Identity → UInt64

namespace Hashing

/-- The FNV-1a hash of a byte string. -/
def fnv (bytes : Bytes) : UInt64 :=
  bytes.foldl (fun h b => (h ^^^ b.toUInt64) * 0x100000001B3) 0xCBF29CE484222325

/-- The constant with which values are mixed. -/
def golden : UInt64 := 0x9E3779B97F4A7C15

/-- Mixes a value into a hash. -/
def mix (h value : UInt64) : UInt64 := h ^^^ (value + golden + (h <<< 6) + (h >>> 2))

/-- A number for a port that may be missing. -/
def portCode : Option UInt16 → UInt64
  | some port => port.toUInt64 + 1
  | none => 0

/-- A number for a scope. -/
def scopeCode : Scope → UInt64
  | .exchange => 0
  | .tunnel => 1

/-- The hash of an identity from those of its parts. -/
def ofParts (identity : Identity) : UInt64 :=
  mix (mix (mix (fnv identity.client) (fnv identity.host)) (portCode identity.port))
    (scopeCode identity.scope)

/-- The standard hashes. -/
def standard : Hashing := ⟨fnv, ofParts⟩

end Hashing

end ProxyRouting.Affinity
