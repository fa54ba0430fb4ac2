import ProxyRouting.Proofs.Url.Grammar

/-!
# A target as a URL

A host with a port is read in two places: as a target, and behind `http://` as the URL of a proxy.
In brackets the two readers do the same. Outside of them a target is cut at its only colon, and a
URL at its last one, so that they agree on texts with one colon at most, and on no others
(`readsAsTarget_iff`). A bare IPv6 address is a host for the one reader, and a shorter host with a
port for the other (`address_read_as_host_and_port`).
-/

namespace ProxyRouting

namespace HostText

/-- A host with small letters is a target whenever the host is. -/
theorem resolve?_lower (parts : HostText) (fallback : UInt16) :
    ({ parts with host := lower parts.host } : HostText).resolve? fallback =
      (parts.resolve? fallback).map fun target => { target with host := lower target.host } := by
  obtain ⟨host, port⟩ := parts
  unfold resolve?
  by_cases empty : host = []
  · subst empty
    rfl
  · have nonempty : lower host ≠ [] := Url.lower_ne_nil_iff.2 empty
    rw [if_neg empty, if_neg nonempty]
    cases port with
    | none => rfl
    | some digits =>
      dsimp only
      rw [Option.map_map]
      rfl

/-- The host before the last colon is shorter than the text. -/
theorem length_ofLastColon {text : Bytes} (mem : colon ∈ text) :
    (ofLastColon text).host.length < text.length := by
  cases cut : cutLast? colon text with
  | none => exact absurd mem (cutLast?_eq_none_iff.1 cut)
  | some parts =>
    obtain ⟨host, port⟩ := parts
    obtain ⟨rfl, last⟩ := cutLast?_eq_some_iff.1 cut
    rw [ofLastColon_of_last last, List.length_append, List.length_cons]
    exact Nat.lt_add_of_pos_right (Nat.succ_pos _)

theorem host_of_resolve? {parts : HostText} {fallback : UInt16} {target : HostPort}
    (resolves : parts.resolve? fallback = some target) : target.host = parts.host :=
  (resolve?_eq_some_iff.1 resolves).2.1

end HostText

namespace Url

variable {text : Bytes}

/-- The URL of an HTTP proxy at a target, without a user and a password. -/
def http (target : HostPort) : Url where
  scheme := ascii "http"
  host := target.host
  port := target.port
  username := []
  password := []

/-- The target that is read from `text`, with a host in small letters unless it is in brackets. -/
def shownTarget (text : Bytes) (target : HostPort) : HostPort :=
  if text.head? = some openBracket then target else { target with host := lower target.host }

/-- Behind `http://`, `text` is read as the target that it is when it stands alone: it is accepted
in both places or in neither, with the same port and the same host. -/
def ReadsAsTarget (text : Bytes) : Prop :=
  parse? (ascii "http://" ++ text) =
    (HostPort.parse? text 80).map fun target => http (shownTarget text target)

/-- A text that is neither ended nor has a user part is read as a host. -/
theorem parse?_http (inside : ∀ b ∈ text, endsAuthority b = false) (noUser : atSign ∉ text) :
    parse? (ascii "http://" ++ text) =
      ((HostText.read? unbracketedHost text).bind (·.resolve? 80)).map http := by
  have cut : cutText? (ascii "://") (ascii "http://" ++ text) = some (ascii "http", text) :=
    cutText?_of_not_mem (by decide : colon ∉ ascii "http")
  have whole : authority text = text := by
    rw [authority, List.takeWhile_eq_self_iff]
    intro b mem
    rw [inside b mem]
    rfl
  have supported : Scheme.defaultPort? (lower (ascii "http")) = some 80 := by decide
  have small : lower (ascii "http") = ascii "http" := by decide
  unfold parse?
  rw [cut]
  dsimp only
  rw [supported, whole, splitAuthority_of_not_mem noUser, small]
  dsimp only
  cases HostText.read? unbracketedHost text with
  | none => rfl
  | some parts => rfl

section HostPart

variable (inside : ∀ b ∈ text, endsAuthority b = false) (noUser : atSign ∉ text)

include inside noUser

theorem readsAsTarget_of_bracket (bracket : text.head? = some openBracket) :
    ReadsAsTarget text := by
  have shown : shownTarget text = id := funext fun target => if_pos bracket
  unfold ReadsAsTarget
  rw [parse?_http inside noUser, HostPort.parse?_eq_bind, shown]
  obtain ⟨rest, rfl⟩ := List.head?_eq_some_iff.1 bracket
  rw [HostText.read?_bracketed, HostText.read?_bracketed]
  rfl

/-- Outside of brackets, the only colon is compared with the last one. -/
theorem readsAsTarget_iff_of_bare (bare : text.head? ≠ some openBracket) :
    ReadsAsTarget text ↔
      ((HostText.ofLastColon text).resolve? 80).map (http ∘ shownTarget text) =
        ((HostText.ofOnlyColon text).resolve? 80).map (http ∘ shownTarget text) := by
  have shown : shownTarget text = fun target => { target with host := lower target.host } :=
    funext fun target => if_neg bare
  unfold ReadsAsTarget
  rw [parse?_http inside noUser, HostPort.parse?_eq_bind, HostText.read?_of_head _ bare,
    HostText.read?_of_head _ bare, Option.bind_some, Option.bind_some, unbracketedHost,
    HostText.resolve?_lower, Option.map_map, shown]
  rfl

/-- A target with several colons is a host with all of them, and behind `http://` the last one is
no part of the host. -/
theorem not_readsAsTarget_of_several (bare : text.head? ≠ some openBracket)
    (several : 1 < text.count colon) : ¬ ReadsAsTarget text := by
  have mem : colon ∈ text := List.count_pos_iff.1 (by omega)
  have alone : (⟨text, none⟩ : HostText).resolve? 80 = some ⟨text, 80⟩ :=
    HostText.resolve?_alone_iff.2 ⟨List.ne_nil_of_mem mem, rfl⟩
  rw [readsAsTarget_iff_of_bare inside noUser bare, HostText.ofOnlyColon_of_several several, alone,
    Option.map_some, Option.map_eq_some_iff]
  rintro ⟨target, resolves, same⟩
  have sameHost : (shownTarget text target).host = (shownTarget text ⟨text, 80⟩).host :=
    congrArg (fun url : Url => url.host) same
  rw [shownTarget, shownTarget, if_neg bare, if_neg bare] at sameHost
  have sameLength : target.host.length = text.length := by
    simpa [lower] using congrArg List.length sameHost
  have shorter := HostText.length_ofLastColon mem
  rw [HostText.host_of_resolve? resolves] at sameLength
  omega

end HostPart

/-- **The two readers agree on the texts with one colon at most, and on those in brackets**, and on
no others of those without a byte that would end the host part or begin it. -/
theorem readsAsTarget_iff (inside : ∀ b ∈ text, endsAuthority b = false) (noUser : atSign ∉ text) :
    ReadsAsTarget text ↔ text.head? = some openBracket ∨ text.count colon ≤ 1 := by
  by_cases bracket : text.head? = some openBracket
  · exact iff_of_true (readsAsTarget_of_bracket inside noUser bracket) (Or.inl bracket)
  by_cases few : text.count colon ≤ 1
  · refine iff_of_true ?_ (Or.inr few)
    rw [readsAsTarget_iff_of_bare inside noUser bracket, HostText.ofOnlyColon_of_few few]
  · refine iff_of_false (not_readsAsTarget_of_several inside noUser bracket (by omega)) ?_
    exact not_or.2 ⟨bracket, few⟩

/-- A name with a port of five digits and a leading zero, and an address in brackets. -/
theorem readsAsTarget_iff_of_name_and_address :
    ReadsAsTarget (ascii "Proxy.Example:08080") ∧ ReadsAsTarget (ascii "[2001:DB8::1]:443") :=
  ⟨(readsAsTarget_iff (by decide +kernel) (by decide)).2 (Or.inr (by decide)),
    (readsAsTarget_iff (by decide +kernel) (by decide)).2 (Or.inl rfl)⟩

/-- A bare address is a host with port 80 when it stands alone, and a shorter host with a port that
is cut from it behind `http://`. -/
theorem address_read_as_host_and_port :
    HostPort.parse? (ascii "2001:db8::1") 80 = some ⟨ascii "2001:db8::1", 80⟩ ∧
    parse? (ascii "http://" ++ ascii "2001:db8::1") = some (http ⟨ascii "2001:db8:", 1⟩) ∧
    ¬ ReadsAsTarget (ascii "2001:db8::1") := by
  have alone : HostPort.parse? (ascii "2001:db8::1") 80 = some ⟨ascii "2001:db8::1", 80⟩ := by
    decide +kernel
  have behind : parse? (ascii "http://" ++ ascii "2001:db8::1") =
      some (http ⟨ascii "2001:db8:", 1⟩) := by
    decide +kernel
  refine ⟨alone, behind, fun agree => ?_⟩
  unfold ReadsAsTarget at agree
  rw [alone, behind] at agree
  exact absurd agree (by decide +kernel)

end Url

end ProxyRouting
