import Mathlib.Data.Nat.Digits.Defs
import ProxyRouting.Proofs.Text.Integer
import ProxyRouting.Proofs.Url.Grammar
import ProxyRouting.Proxy

/-!
# A shown address is read as itself

An address is shown as `scheme://host:port`, in reports and in the lines about routes, and never
with brackets. Yet it is a URL of the same address, because no byte that would end the host or begin
it can come into the host of an address (`isHost_of_parse?`): whatever colons there are in it, the
last one of the text is the one before the port. Only the letters of a host that stood in brackets
may become small. The exception is a host that itself begins with a bracket, which is taken for one
in brackets and refused (`Proxy.shown_address_reads_back`).
-/

namespace ProxyRouting

/-- The decimal digits of a port are a text of it. -/
theorem Decimal.writesPort_ofNat {port : UInt16} (positive : 1 ≤ port.toNat) :
    WritesPort port (ofNat port.toNat) where
  nonempty := ofNat_ne_nil _
  short := by
    have small : port.toNat < 10 ^ 5 := Nat.lt_trans port.toNat_lt (by decide)
    rw [ofNat, List.length_map]
    exact Nat.toDigits_length 10 _ 5 (by decide) small
  digits := fun _ => isDigit_of_mem_ofNat
  value := value_ofNat _
  positive := positive

namespace Url

variable {b : UInt8} {text host : Bytes} {fallback : UInt16} {target : HostPort} {url : Url}
  {pair : Bytes × Bytes}

/-! ### The bytes of a host -/

/-- A byte that does not end the host part of an authority, nor begin it. -/
def IsInner (b : UInt8) : Prop := endsAuthority b = false ∧ b ≠ atSign

instance (b : UInt8) : Decidable (IsInner b) := inferInstanceAs (Decidable (_ ∧ _))

theorem IsInner.lowerByte (inner : IsInner b) : IsInner (lowerByte b) :=
  forall_byte (P := fun b => IsInner b → IsInner (ProxyRouting.lowerByte b)) (by decide +kernel) b
    inner

theorem isInner_of_isDigit (digit : Decimal.isDigit b = true) : IsInner b :=
  forall_byte (P := fun b => Decimal.isDigit b = true → IsInner b) (by decide +kernel) b digit

theorem lowerByte_ne (other : b ≠ openBracket) : lowerByte b ≠ openBracket :=
  forall_byte (P := fun b => b ≠ openBracket → lowerByte b ≠ openBracket) (by decide +kernel) b
    other

/-- A host that is made small begins with a bracket only if it did so before. -/
theorem head?_lower_ne (bare : text.head? ≠ some openBracket) :
    (lower text).head? ≠ some openBracket := by
  cases text with
  | nil => exact nofun
  | cons b rest =>
    intro head
    exact lowerByte_ne (fun same => bare (congrArg some same)) (Option.some.inj head)

/-- What can be the host of a URL. A host with a bracket in front stood in brackets itself, so that
none is closed in it. -/
structure IsHost (host : Bytes) : Prop where
  /-- There is a byte. -/
  nonempty : host ≠ []
  /-- No byte ends the host or begins it. -/
  inner : ∀ b ∈ host, IsInner b
  /-- A bracket that is opened in front is not closed. -/
  unclosed : host.head? = some openBracket → closeBracket ∉ host

/-- A host that is made small, and had no bracket in front. -/
theorem isHost_lower (nonempty : host ≠ []) (bare : host.head? ≠ some openBracket)
    (inner : ∀ b ∈ host, IsInner b) : IsHost (lower host) where
  nonempty := lower_ne_nil_iff.2 nonempty
  inner := List.forall_mem_map.2 fun b mem => (inner b mem).lowerByte
  unclosed := fun head => absurd head (head?_lower_ne bare)

theorem NamesHost.isHost (names : NamesHost fallback text target)
    (inner : ∀ b ∈ text, IsInner b) : IsHost target.host := by
  cases names with
  | bare nonempty bare noColon => exact isHost_lower nonempty bare inner
  | barePort nonempty bare writes =>
    exact isHost_lower nonempty bare fun b mem => inner b (List.mem_append_left _ mem)
  | bracketed nonempty inside =>
    exact ⟨nonempty, fun b mem => inner b (List.mem_cons_of_mem _ (List.mem_append_left _ mem)),
      fun _ => inside⟩
  | bracketedPort nonempty inside writes =>
    exact ⟨nonempty, fun b mem => inner b (List.mem_cons_of_mem _ (List.mem_append_left _ mem)),
      fun _ => inside⟩

theorem NamesAuthority.isHost (names : NamesAuthority fallback text pair target)
    (inside : ∀ b ∈ text, endsAuthority b = false) : IsHost target.host := by
  cases names with
  | host noUser namesHost =>
    exact namesHost.isHost fun b mem => ⟨inside b mem, fun same => noUser (same ▸ mem)⟩
  | withUser noUser _ namesHost =>
    -- The host part is what follows the last `@`.
    exact namesHost.isHost fun b mem =>
      ⟨inside b (List.mem_append_right _ (List.mem_cons_of_mem _ mem)),
        fun same => noUser (same ▸ mem)⟩

/-- **The host of a URL** holds no byte that would end it or begin it. -/
theorem isHost_of_parse? (parses : parse? text = some url) : IsHost url.host := by
  obtain ⟨spelling, rfl⟩ := Spelling.exists_of_parse? parses
  obtain ⟨-, fallback, -, names⟩ := Spelling.parse?_text_iff.1 parses
  exact names.isHost spelling.inside

/-! ### Reading the shown text -/

/-- A bracket that is opened in front of a host part is closed in it. -/
theorem NamesHost.closeBracket_mem (names : NamesHost fallback text target)
    (bracket : text.head? = some openBracket) : closeBracket ∈ text := by
  cases names with
  | bare nonempty bare noColon => exact absurd bracket bare
  | barePort nonempty bare writes =>
    rw [List.head?_append_of_ne_nil _ nonempty] at bracket
    exact absurd bracket bare
  | bracketed nonempty inside => simp
  | bracketedPort nonempty inside writes => simp

theorem isInner_of_mem_text (inner : ∀ b ∈ target.host, IsInner b) :
    ∀ b ∈ target.text, IsInner b := by
  intro b mem
  rcases List.mem_append.1 mem with ofHost | ofPort
  · exact inner b ofHost
  · rcases List.mem_cons.1 ofPort with rfl | ofDigits
    · decide
    · exact isInner_of_isDigit (Decimal.isDigit_of_mem_ofNat ofDigits)

end Url

namespace Address

open Url (IsHost IsInner NamesAuthority NamesHost Spelling)

variable {address : Address}

theorem Usable.supported (usable : address.Usable) :
    ∃ fallback, Scheme.Supported address.scheme fallback := by
  rcases usable.scheme with eq | eq | eq
  · exact ⟨80, eq ▸ .http⟩
  · exact ⟨443, eq ▸ .https⟩
  · exact ⟨1080, eq ▸ .socks5⟩

theorem Usable.lower_scheme (usable : address.Usable) : lower address.scheme = address.scheme := by
  rcases usable.scheme with eq | eq | eq <;> rw [eq] <;> decide

theorem Usable.colon_not_mem (usable : address.Usable) : colon ∉ address.scheme := by
  obtain ⟨fallback, supported⟩ := usable.supported
  rw [← usable.lower_scheme] at supported
  exact supported.colon_not_mem

/-- The text in which an address is shown, in the parts of a URL. -/
def spelling (address : Address) (usable : address.Usable)
    (inner : ∀ b ∈ address.host, IsInner b) : Spelling where
  scheme := address.scheme
  authority := (⟨address.host, address.port⟩ : HostPort).text
  rest := []
  colon_not_mem := usable.colon_not_mem
  inside := fun b mem => (Url.isInner_of_mem_text inner b mem).1
  outside := nofun

/-- The URL of an address with its host in small letters, without a user and a password. -/
def toUrl (address : Address) : Url :=
  { address with host := lower address.host, username := [], password := [] }

theorem text_spelling (usable : address.Usable) (inner : ∀ b ∈ address.host, IsInner b) :
    (address.spelling usable inner).text = address.text := by
  simp only [Spelling.text, spelling, Address.text, List.append_nil]

section Shown

variable (usable : address.Usable) (isHost : IsHost address.host)

include isHost

theorem atSign_not_mem : atSign ∉ (⟨address.host, address.port⟩ : HostPort).text := fun mem =>
  (Url.isInner_of_mem_text isHost.inner _ mem).2 rfl

include usable

/-- The shown text is the URL of the address, unless its host begins with a bracket. -/
theorem parse?_text (bare : address.host.head? ≠ some openBracket) :
    Url.parse? address.text = some address.toUrl := by
  obtain ⟨fallback, supported⟩ := usable.supported
  have host : NamesHost fallback (⟨address.host, address.port⟩ : HostPort).text
      ⟨lower address.host, address.port⟩ :=
    .barePort isHost.nonempty bare (Decimal.writesPort_ofNat usable.port)
  have names : (address.spelling usable isHost.inner).Names address.toUrl :=
    ⟨usable.lower_scheme, fallback, supported, .host (atSign_not_mem isHost) host⟩
  rw [← text_spelling usable isHost.inner]
  exact Spelling.parse?_text_iff.2 names

/-- The shown text is refused if the host begins with a bracket, because it is not closed. -/
theorem parse?_text_of_bracket (bracket : address.host.head? = some openBracket) :
    Url.parse? address.text = none := by
  rw [← text_spelling usable isHost.inner, Option.eq_none_iff_forall_ne_some]
  intro url parses
  obtain ⟨-, fallback, -, names⟩ := Spelling.parse?_text_iff.1 parses
  have opened : (⟨address.host, address.port⟩ : HostPort).text.head? = some openBracket := by
    rw [HostPort.text, List.head?_append_of_ne_nil _ isHost.nonempty, bracket]
  rcases List.mem_append.1 ((names.namesHost (atSign_not_mem isHost)).closeBracket_mem opened) with
    ofHost | ofPort
  · exact isHost.unclosed bracket ofHost
  · rcases List.mem_cons.1 ofPort with eq | ofDigits
    · exact absurd eq (by decide)
    · exact absurd (Decimal.isDigit_of_mem_ofNat ofDigits) (by decide)

end Shown

end Address

/-- **A shown address is read as itself**, with its host in small letters and without a user and a
password, whenever it is that of a proxy's URL: the text in which reports and routes show it is a
URL of the same scheme and port. Only a host that begins with a bracket is refused. -/
theorem Proxy.shown_address_reads_back {proxy : Proxy} {address : Address}
    (resolves : proxy.address? = some address) :
    (address.host.head? ≠ some openBracket →
      Url.parse? address.text =
        some { scheme := address.scheme, host := lower address.host, port := address.port
               username := [], password := [] }) ∧
    (address.host.head? = some openBracket → Url.parse? address.text = none) := by
  obtain ⟨url, parses, rfl⟩ := Option.map_eq_some_iff.1 resolves
  have usable := Url.usable_of_parse? parses
  have isHost := Url.isHost_of_parse? parses
  exact ⟨Address.parse?_text usable isHost, Address.parse?_text_of_bracket usable isHost⟩

/-- An address with letters in both cases, which stood in brackets with a user in front. -/
theorem Proxy.shown_address_reads_back_without_brackets :
    (⟨ascii "socks5", ascii "2001:DB8::1", 1080⟩ : Address).text =
        ascii "socks5://2001:DB8::1:1080" ∧
      Url.parse? (⟨ascii "socks5", ascii "2001:DB8::1", 1080⟩ : Address).text =
        some { scheme := ascii "socks5", host := ascii "2001:db8::1", port := 1080
               username := [], password := [] } := by
  have resolves :
      ({ name := ascii "p", url := ascii "SOCKS5://ann:x@[2001:DB8::1]/" } : Proxy).address? =
        some ⟨ascii "socks5", ascii "2001:DB8::1", 1080⟩ := by decide +kernel
  exact ⟨by decide +kernel, (shown_address_reads_back resolves).1 (by decide)⟩

end ProxyRouting
