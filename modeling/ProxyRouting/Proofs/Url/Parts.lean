import Mathlib.Tactic.SplitIfs
import ProxyRouting.Proofs.HostPort.Parts
import ProxyRouting.Url

/-!
# The parts of a URL

A text is read as a URL part by part: the scheme (`Scheme.Supported`), the authority, the host, and
the port, each of which may be refused (`parse?_eq_some_iff`). What is not refused is good for a
connection: the scheme is one of the three, the host is not empty, and the port is not zero
(`usable_of_parse?`).
-/

namespace ProxyRouting

/-- The supported schemes, each with the port that is used when none is written. -/
inductive Scheme.Supported : Bytes → UInt16 → Prop
  /-- Plain HTTP. -/
  | http : Supported (ascii "http") 80
  /-- HTTP over TLS. -/
  | https : Supported (ascii "https") 443
  /-- SOCKS version 5. -/
  | socks5 : Supported (ascii "socks5") 1080

namespace Scheme

variable {scheme : Bytes} {port : UInt16}

theorem defaultPort?_eq_some_iff : defaultPort? scheme = some port ↔ Supported scheme port := by
  constructor
  · intro found
    unfold defaultPort? at found
    split_ifs at found with http https socks5
    · cases found
      exact http ▸ .http
    · cases found
      exact https ▸ .https
    · cases found
      exact socks5 ▸ .socks5
  · intro supported
    cases supported with
    | http => rfl
    | https => rfl
    | socks5 => rfl

theorem Supported.scheme_cases (supported : Supported scheme port) :
    scheme = Scheme.http ∨ scheme = Scheme.https ∨ scheme = Scheme.socks5 := by
  cases supported with
  | http => exact Or.inl rfl
  | https => exact Or.inr (Or.inl rfl)
  | socks5 => exact Or.inr (Or.inr rfl)

theorem Supported.port_pos (supported : Supported scheme port) : 1 ≤ port.toNat := by
  cases supported with
  | http => decide
  | https => decide
  | socks5 => decide

/-- A supported scheme holds no colon, in either case of its letters. -/
theorem Supported.colon_not_mem (supported : Supported (lower scheme) port) : colon ∉ scheme := by
  intro mem
  have lowered : colon ∈ lower scheme := List.mem_map.2 ⟨colon, mem, rfl⟩
  rcases supported.scheme_cases with eq | eq | eq
  · rw [eq] at lowered
    exact absurd lowered (by decide)
  · rw [eq] at lowered
    exact absurd lowered (by decide)
  · rw [eq] at lowered
    exact absurd lowered (by decide)

end Scheme

namespace Url

variable {text : Bytes} {url : Url}

/-- A text is a URL exactly if none of its parts is refused. -/
theorem parse?_eq_some_iff : parse? text = some url ↔
    ∃ scheme rest fallback parts target,
      cutText? (ascii "://") text = some (scheme, rest) ∧
      Scheme.defaultPort? (lower scheme) = some fallback ∧
      HostText.read? unbracketedHost (splitAuthority (authority rest)).2 = some parts ∧
      parts.resolve? fallback = some target ∧
      url = { scheme := lower scheme, host := target.host, port := target.port
              username := (splitAuthority (authority rest)).1.1
              password := (splitAuthority (authority rest)).1.2 } := by
  unfold parse?
  constructor
  · intro parses
    split at parses
    · cases parses
    · next scheme rest cut =>
      split at parses
      · cases parses
      · next fallback supported =>
        rcases splits : splitAuthority (authority rest) with ⟨⟨username, password⟩, host⟩
        rw [splits] at parses
        dsimp only at parses
        split at parses
        · cases parses
        · next parts reads =>
          obtain ⟨target, resolves, rfl⟩ := Option.map_eq_some_iff.1 parses
          refine ⟨scheme, rest, fallback, parts, target, cut, supported, ?_, resolves, ?_⟩
          · rw [splits]
            exact reads
          · rw [splits]
  · rintro ⟨scheme, rest, fallback, parts, target, cut, supported, reads, resolves, rfl⟩
    simp only [cut, supported, reads, resolves, Option.map_some]

end Url

/-- The address names a protocol that is spoken, and a place to connect to. -/
structure Address.Usable (address : Address) : Prop where
  /-- The scheme is one of the three. -/
  scheme : address.scheme = Scheme.http ∨ address.scheme = Scheme.https ∨
    address.scheme = Scheme.socks5
  /-- There is a host. -/
  host : address.host ≠ []
  /-- There is a port. -/
  port : 1 ≤ address.port.toNat

/-- **The address of a URL is usable.** -/
theorem Url.usable_of_parse? {text : Bytes} {url : Url} (parses : parse? text = some url) :
    url.toAddress.Usable := by
  obtain ⟨scheme, rest, fallback, parts, target, -, supported, -, resolves, rfl⟩ :=
    parse?_eq_some_iff.1 parses
  obtain ⟨notEmpty, sameHost, port⟩ := HostText.resolve?_eq_some_iff.1 resolves
  have spoken := Scheme.defaultPort?_eq_some_iff.1 supported
  refine ⟨spoken.scheme_cases, ?_, ?_⟩
  · show target.host ≠ []
    rw [sameHost]
    exact notEmpty
  · show 1 ≤ target.port.toNat
    rcases port with ⟨-, eq⟩ | ⟨digits, -, reads⟩
    · rw [eq]
      exact spoken.port_pos
    · exact (Decimal.port?_eq_some_iff.1 reads).positive

end ProxyRouting
