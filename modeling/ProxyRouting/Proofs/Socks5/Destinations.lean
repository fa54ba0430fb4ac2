import ProxyRouting.Proofs.Address.IPv6
import ProxyRouting.Proofs.Socks5.Requests

/-!
# What a CONNECT request tells

A host is sent as the address of which it is a text up to its first zero byte, or else as a domain
name (`Denotes`). No text is one of two addresses, since only those of IPv6 have colons, so a host
denotes one destination at most (`Denotes.unique`). A server reads the destination and the port back
from the request, with no byte missing or left over (`readConnect?_connectMessage`). So the requests
for two targets differ unless the targets have one port, and hosts that are texts of one address or
the same name (`connectRequest?_tells_target`).
-/

namespace ProxyRouting.Socks5

/-! ### Hosts -/

/-- The host is the text of an address, up to its first zero byte if it has one. -/
inductive IsLiteral (host : Bytes) : Prop
  /-- Of an IPv4 address. -/
  | ipv4 (address : IPv4) : untilNul host = address.text → IsLiteral host
  /-- Of an IPv6 address. -/
  | ipv6 (address : IPv6) : address.Writes (untilNul host) → IsLiteral host

/-- The destination that a host stands for. -/
inductive Denotes : Bytes → Destination → Prop
  /-- An IPv4 address, which has one text. -/
  | ipv4 {address : IPv4} {host : Bytes} : untilNul host = address.text →
      Denotes host (.ipv4 address)
  /-- An IPv6 address, in one of its texts. -/
  | ipv6 {address : IPv6} {host : Bytes} : address.Writes (untilNul host) →
      Denotes host (.ipv6 address)
  /-- A domain name: ASCII bytes, as many as a length byte can tell. -/
  | domain {name : Bytes} : ¬ IsLiteral name → name ≠ [] → name.length ≤ 255 →
      (∀ b ∈ name, b ≤ 0x7F) → Denotes name (.domain name)

/-- Two hosts are texts of one address, or the same name. -/
inductive SameDestination : Bytes → Bytes → Prop
  /-- Of an IPv4 address. -/
  | ipv4 {address : IPv4} {host other : Bytes} : untilNul host = address.text →
      untilNul other = address.text → SameDestination host other
  /-- Of an IPv6 address. -/
  | ipv6 {address : IPv6} {host other : Bytes} : address.Writes (untilNul host) →
      address.Writes (untilNul other) → SameDestination host other
  /-- A name. -/
  | name {host : Bytes} : ¬ IsLiteral host → SameDestination host host

variable {host name : Bytes} {destination : Destination}

theorem not_isLiteral_iff :
    ¬ IsLiteral host ↔
      IPv4.parse? (untilNul host) = none ∧ IPv6.parse? (untilNul host) = none := by
  rw [Option.eq_none_iff_forall_ne_some, Option.eq_none_iff_forall_ne_some]
  constructor
  · intro noLiteral
    exact ⟨fun address reads => noLiteral (.ipv4 address (IPv4.parse?_eq_some_iff.1 reads)),
      fun address reads => noLiteral (.ipv6 address (IPv6.parse?_eq_some_iff.1 reads))⟩
  · rintro ⟨noIPv4, noIPv6⟩ (⟨address, is⟩ | ⟨address, writes⟩)
    · exact noIPv4 address (IPv4.parse?_eq_some_iff.2 is)
    · exact noIPv6 address (IPv6.parse?_eq_some_iff.2 writes)

theorem isDomain_iff :
    isDomain name = true ↔ name ≠ [] ∧ name.length ≤ 255 ∧ ∀ b ∈ name, b ≤ 0x7F := by
  unfold isDomain
  rw [Bool.and_eq_true, Bool.and_eq_true, decide_eq_true_eq, decide_eq_true_eq, List.all_eq_true,
    and_assoc]
  simp only [decide_eq_true_eq, maxFieldLength]

/-- **A host is sent as what it denotes.** -/
theorem ofHost?_eq_some_iff :
    Destination.ofHost? host = some destination ↔ Denotes host destination := by
  constructor
  · intro sends
    unfold Destination.ofHost? at sends
    split at sends
    · next address reads =>
      cases sends
      exact .ipv4 (IPv4.parse?_eq_some_iff.1 reads)
    · next noIPv4 =>
      split at sends
      · next address reads =>
        cases sends
        exact .ipv6 (IPv6.parse?_eq_some_iff.1 reads)
      · next noIPv6 =>
        split at sends
        · next isName =>
          cases sends
          obtain ⟨nonempty, short, plain⟩ := isDomain_iff.1 isName
          exact .domain (not_isLiteral_iff.2 ⟨noIPv4, noIPv6⟩) nonempty short plain
        · cases sends
  · intro denotes
    unfold Destination.ofHost?
    cases denotes with
    | ipv4 is => rw [IPv4.parse?_eq_some_iff.2 is]
    | @ipv6 address _ writes =>
      have noIPv4 : IPv4.parse? (untilNul host) = none := by
        rw [Option.eq_none_iff_forall_ne_some]
        intro other reads
        rw [IPv4.parse?_eq_some_iff.1 reads] at writes
        exact IPv4.colon_not_mem_text writes.colon_mem
      rw [noIPv4, IPv6.parse?_eq_some_iff.2 writes]
    | domain noLiteral nonempty short plain =>
      obtain ⟨noIPv4, noIPv6⟩ := not_isLiteral_iff.1 noLiteral
      rw [noIPv4, noIPv6]
      exact if_pos (isDomain_iff.2 ⟨nonempty, short, plain⟩)

/-- What is behind a zero byte is no part of an address. -/
example : Destination.ofHost? (ascii "10.0.0.1" ++ nul :: ascii "x") =
    some (.ipv4 ⟨10, 0, 0, 1⟩) := by decide +kernel

/-- A host denotes one destination at most. -/
theorem Denotes.unique {other : Destination} (denotes : Denotes host destination)
    (also : Denotes host other) : destination = other := by
  have sends := ofHost?_eq_some_iff.2 denotes
  rw [ofHost?_eq_some_iff.2 also] at sends
  exact (Option.some.inj sends).symm

/-- A name that cannot be told is not sent. -/
theorem ofHost?_eq_none_iff : Destination.ofHost? host = none ↔
    ¬ IsLiteral host ∧ (host = [] ∨ 255 < host.length ∨ ∃ b ∈ host, 0x7F < b) := by
  have noName : isDomain host = false ↔ host = [] ∨ 255 < host.length ∨ ∃ b ∈ host, 0x7F < b := by
    rw [← Bool.not_eq_true, isDomain_iff]
    simp only [ne_eq, not_and_or, not_not, not_le, not_forall, exists_prop, UInt8.not_le]
  rw [← noName, not_isLiteral_iff]
  unfold Destination.ofHost?
  cases IPv4.parse? (untilNul host) with
  | some address => simp
  | none =>
    cases IPv6.parse? (untilNul host) with
    | some address => simp
    | none => simp

/-- Two hosts denote one destination if they are texts of one address or the same name. -/
theorem sameDestination_of_denotes {other : Bytes} (denotes : Denotes host destination)
    (also : Denotes other destination) : SameDestination host other := by
  cases denotes with
  | ipv4 is =>
    cases also with
    | ipv4 isOther => exact .ipv4 is isOther
  | ipv6 writes =>
    cases also with
    | ipv6 writesOther => exact .ipv6 writes writesOther
  | domain noLiteral _ _ _ =>
    cases also with
    | domain _ _ _ _ => exact .name noLiteral

theorem SameDestination.denotes {other : Bytes} (same : SameDestination host other)
    (denotes : Denotes host destination) : Denotes other destination := by
  cases same with
  | ipv4 is isOther => exact (Denotes.ipv4 is).unique denotes ▸ .ipv4 isOther
  | ipv6 writes writesOther => exact (Denotes.ipv6 writes).unique denotes ▸ .ipv6 writesOther
  | name _ => exact denotes

/-! ### Messages -/

/-- The two bytes of a word, the high one first, are read as the word. -/
theorem word_of_bytes (word : UInt16) :
    (256 : UInt16) * (word >>> 8).toUInt8.toUInt16 + word.toUInt8.toUInt16 = word := by
  have small := word.toNat_lt
  apply UInt16.toNat_inj.1
  rw [UInt16.toNat_add, UInt16.toNat_mul, UInt8.toNat_toUInt16, UInt8.toNat_toUInt16,
    UInt16.toNat_toUInt8, UInt16.toNat_toUInt8, UInt16.toNat_shiftRight, Nat.shiftRight_eq_div_pow]
  show (256 * (word.toNat / 2 ^ 8 % 2 ^ 8) % 65536 + word.toNat % 2 ^ 8) % 65536 = word.toNat
  omega

theorem readGroups_flatMap (groups : List UInt16) :
    readGroups (groups.flatMap IPv6.groupBytes) = groups := by
  induction groups with
  | nil => rfl
  | cons group rest ih =>
    rw [List.flatMap_cons]
    show ((256 : UInt16) * (group >>> 8).toUInt8.toUInt16 + group.toUInt8.toUInt16) ::
      readGroups (rest.flatMap IPv6.groupBytes) = group :: rest
    rw [word_of_bytes, ih]

theorem length_bytes (address : IPv6) : address.bytes.length = 16 := by
  have each : ∀ groups : List UInt16,
      (groups.flatMap IPv6.groupBytes).length = 2 * groups.length := by
    intro groups
    induction groups with
    | nil => rfl
    | cons group rest ih =>
      rw [List.flatMap_cons, List.length_append, ih, List.length_cons]
      show 2 + 2 * rest.length = 2 * (rest.length + 1)
      omega
  rw [IPv6.bytes, each, address.length_groups]

/-- A destination is read back with what follows it. -/
theorem readDestination?_append (denotes : Denotes host destination) (rest : Bytes) :
    readDestination? (destination.bytes ++ rest) = some (destination, rest) := by
  cases denotes with
  | ipv4 _ => rfl
  | @ipv6 address _ _ =>
    have front : (address.bytes ++ rest).take 16 = address.bytes := by
      rw [← length_bytes address, List.take_left]
    have behind : (address.bytes ++ rest).drop 16 = rest := by
      rw [← length_bytes address, List.drop_left]
    have groups : readGroups address.bytes = address.groups := readGroups_flatMap _
    have other : typeIPv6 ≠ typeIPv4 := by decide
    unfold Destination.bytes readDestination?
    rw [List.cons_append]
    dsimp only
    rw [if_neg other, if_pos rfl]
    simp only [front, behind, groups, address.length_groups, dite_true]
  | domain _ _ short _ =>
    unfold Destination.bytes readDestination?
    rw [List.cons_append]
    dsimp only
    rw [if_neg (by decide), if_neg (by decide), if_pos rfl, readField?_append rest short]
    rfl

/-- **The server reads the destination and the port**, and nothing else. -/
theorem readConnect?_connectMessage (denotes : Denotes host destination) (port : UInt16) :
    readConnect? (connectMessage destination port) = some (destination, port) := by
  simp only [connectMessage, List.cons_append, List.nil_append, readConnect?,
    readDestination?_append denotes, portBytes, word_of_bytes, and_self, if_true]

theorem connectRequest?_eq_some_iff {target : HostPort} {request : Bytes} :
    connectRequest? target = some request ↔
      ∃ destination, Denotes target.host destination ∧
        request = connectMessage destination target.port := by
  simp only [connectRequest?, Option.map_eq_some_iff, ofHost?_eq_some_iff,
    eq_comm (a := request)]

/-- **A CONNECT request tells its target.** -/
theorem connectRequest?_tells_target (target other : HostPort) :
    (connectRequest? target = none ↔ ¬ IsLiteral target.host ∧
      (target.host = [] ∨ 255 < target.host.length ∨ ∃ b ∈ target.host, 0x7F < b)) ∧
    (∀ request, connectRequest? target = some request → ∃ destination,
      Denotes target.host destination ∧
        readConnect? request = some (destination, target.port)) ∧
    ∀ request request', connectRequest? target = some request →
      connectRequest? other = some request' →
      (request = request' ↔
        target.port = other.port ∧ SameDestination target.host other.host) := by
  refine ⟨?_, ?_, ?_⟩
  · rw [connectRequest?, Option.map_eq_none_iff, ofHost?_eq_none_iff]
  · intro request encodes
    obtain ⟨destination, denotes, rfl⟩ := connectRequest?_eq_some_iff.1 encodes
    exact ⟨destination, denotes, readConnect?_connectMessage denotes target.port⟩
  · intro request request' encodes encodesOther
    obtain ⟨destination, denotes, rfl⟩ := connectRequest?_eq_some_iff.1 encodes
    obtain ⟨destination', denotes', rfl⟩ := connectRequest?_eq_some_iff.1 encodesOther
    constructor
    · intro same
      have reads := readConnect?_connectMessage denotes target.port
      rw [same, readConnect?_connectMessage denotes', Option.some.injEq, Prod.mk.injEq] at reads
      obtain ⟨rfl, port⟩ := reads
      exact ⟨port.symm, sameDestination_of_denotes denotes denotes'⟩
    · rintro ⟨port, same⟩
      rw [port, (same.denotes denotes).unique denotes']

/-- Two texts of one address, one of them with capital letters, a zero that need not be written and
an IPv4 address at its end. -/
theorem connectRequest?_tells_target_of_two_texts :
    ∃ request, connectRequest? ⟨ascii "2001:DB8:0::0.0.0.1", 443⟩ = some request ∧
      connectRequest? ⟨ascii "2001:db8::1", 443⟩ = some request ∧
      (∃ destination, Denotes (ascii "2001:DB8:0::0.0.0.1") destination ∧
        readConnect? request = some (destination, 443)) ∧
      SameDestination (ascii "2001:DB8:0::0.0.0.1") (ascii "2001:db8::1") := by
  have encodes : connectRequest? ⟨ascii "2001:DB8:0::0.0.0.1", 443⟩ =
      some [5, 1, 0, 4, 0x20, 0x01, 0x0D, 0xB8, 0, 0, 0, 0, 0, 0, 0, 0, 0, 0, 0, 1,
        0x01, 0xBB] := by
    decide +kernel
  have encodesOther : connectRequest? ⟨ascii "2001:db8::1", 443⟩ =
      some [5, 1, 0, 4, 0x20, 0x01, 0x0D, 0xB8, 0, 0, 0, 0, 0, 0, 0, 0, 0, 0, 0, 1,
        0x01, 0xBB] := by
    decide +kernel
  obtain ⟨-, reads, tells⟩ := connectRequest?_tells_target
    ⟨ascii "2001:DB8:0::0.0.0.1", 443⟩ ⟨ascii "2001:db8::1", 443⟩
  exact ⟨_, encodes, encodesOther, reads _ encodes, ((tells _ _ encodes encodesOther).1 rfl).2⟩

end ProxyRouting.Socks5
