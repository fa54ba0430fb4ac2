import Mathlib.Data.List.Basic
import ProxyRouting.Proofs.HostPort.Parts

/-!
# The grammar of targets

A text is a target exactly if it is spelled in one of four ways: a host, a host and a port, and both
of these with the host in brackets. Outside of brackets a host with a port has no colon, and a host
alone has none or several, so that no text is spelled in two ways (`HostPort.parse?_eq_some_iff`).
A text that is not spelled so changes nothing (`HostPort.assign_follows_grammar`).
-/

namespace ProxyRouting

/-- The texts of a target. -/
inductive HostPort.Names (fallback : UInt16) : Bytes → HostPort → Prop
  /-- A host with no colon or with several. -/
  | alone {host : Bytes} : host ≠ [] → host.head? ≠ some openBracket →
      colon ∉ host ∨ 2 ≤ host.count colon → Names fallback host ⟨host, fallback⟩
  /-- A host without a colon, and a port. -/
  | withPort {host digits : Bytes} {port : UInt16} : host ≠ [] → host.head? ≠ some openBracket →
      colon ∉ host → Decimal.WritesPort port digits →
      Names fallback (host ++ colon :: digits) ⟨host, port⟩
  /-- A host in brackets. -/
  | bracketed {host : Bytes} : host ≠ [] → closeBracket ∉ host →
      Names fallback (openBracket :: (host ++ [closeBracket])) ⟨host, fallback⟩
  /-- A host in brackets, and a port. -/
  | bracketedPort {host digits : Bytes} {port : UInt16} : host ≠ [] → closeBracket ∉ host →
      Decimal.WritesPort port digits →
      Names fallback (openBracket :: (host ++ closeBracket :: colon :: digits)) ⟨host, port⟩

namespace HostText

variable {text host : Bytes} {fallback : UInt16} {target : HostPort}

theorem ofOnlyColon_of_not_mem (noColon : colon ∉ text) : ofOnlyColon text = ⟨text, none⟩ := by
  rw [ofOnlyColon_of_few (by rw [List.count_eq_zero.2 noColon]; decide),
    ofLastColon_of_not_mem noColon]

theorem ofOnlyColon_of_only {port : Bytes} (before : colon ∉ host) (behind : colon ∉ port) :
    ofOnlyColon (host ++ colon :: port) = ⟨host, some port⟩ := by
  have once : (host ++ colon :: port).count colon = 1 := by
    rw [List.count_append, List.count_cons_self, List.count_eq_zero.2 before,
      List.count_eq_zero.2 behind]
  rw [ofOnlyColon_of_few (Nat.le_of_eq once), ofLastColon_of_last behind]

/-- What is read outside of brackets is spelled by the grammar. -/
theorem names_of_ofOnlyColon (bare : text.head? ≠ some openBracket)
    (resolves : (ofOnlyColon text).resolve? fallback = some target) :
    HostPort.Names fallback text target := by
  by_cases several : 2 ≤ text.count colon
  · rw [ofOnlyColon_of_several several] at resolves
    obtain ⟨nonempty, rfl⟩ := resolve?_alone_iff.1 resolves
    exact .alone nonempty bare (Or.inr several)
  cases cut : cutFirst? colon text with
  | none =>
    have noColon := cutFirst?_eq_none_iff.1 cut
    rw [ofOnlyColon_of_not_mem noColon] at resolves
    obtain ⟨nonempty, rfl⟩ := resolve?_alone_iff.1 resolves
    exact .alone nonempty bare (Or.inl noColon)
  | some parts =>
    obtain ⟨host, digits⟩ := parts
    obtain ⟨rfl, before⟩ := cutFirst?_eq_some_iff.1 cut
    rw [List.count_append, List.count_cons_self] at several
    have behind : colon ∉ digits := List.count_eq_zero.1 (by omega)
    rw [ofOnlyColon_of_only before behind] at resolves
    obtain ⟨nonempty, port, writes, rfl⟩ := resolve?_withPort_iff.1 resolves
    rw [List.head?_append_of_ne_nil _ nonempty] at bare
    exact .withPort nonempty bare before writes

end HostText

namespace HostPort

variable {text : Bytes} {fallback : UInt16} {target : HostPort}

theorem parse?_bracketed_iff : parse? (openBracket :: text) fallback = some target ↔
    ∃ parts, HostText.ofBracketed? text = some parts ∧ parts.resolve? fallback = some target := by
  rw [parse?_eq_bind, HostText.read?_bracketed, Option.bind_eq_some_iff]

theorem parse?_of_head (bare : text.head? ≠ some openBracket) :
    parse? text fallback = (HostText.ofOnlyColon text).resolve? fallback := by
  rw [parse?_eq_bind, HostText.read?_of_head _ bare, Option.bind_some]

/-- **A target is read exactly from its texts.** -/
theorem parse?_eq_some_iff : parse? text fallback = some target ↔ Names fallback text target := by
  constructor
  · intro reads
    by_cases bracket : text.head? = some openBracket
    · obtain ⟨rest, rfl⟩ := List.head?_eq_some_iff.1 bracket
      obtain ⟨host, port⟩ := target
      obtain ⟨nonempty, inside, ⟨rfl, rfl⟩ | ⟨digits, rfl, writes⟩⟩ :=
        HostText.resolve?_ofBracketed?_iff.1 (parse?_bracketed_iff.1 reads)
      · exact .bracketed nonempty inside
      · exact .bracketedPort nonempty inside writes
    · rw [parse?_of_head bracket] at reads
      exact HostText.names_of_ofOnlyColon bracket reads
  · intro names
    cases names with
    | alone nonempty bare colons =>
      have whole : HostText.ofOnlyColon text = ⟨text, none⟩ := by
        rcases colons with none | several
        · exact HostText.ofOnlyColon_of_not_mem none
        · exact HostText.ofOnlyColon_of_several several
      rw [parse?_of_head bare, whole]
      exact HostText.resolve?_alone_iff.2 ⟨nonempty, rfl⟩
    | @withPort host digits port nonempty bare before writes =>
      have head : (host ++ colon :: digits).head? ≠ some openBracket := by
        rwa [List.head?_append_of_ne_nil _ nonempty]
      rw [parse?_of_head head, HostText.ofOnlyColon_of_only before writes.colon_not_mem]
      exact HostText.resolve?_withPort_iff.2 ⟨nonempty, port, writes, rfl⟩
    | bracketed nonempty inside =>
      exact parse?_bracketed_iff.2 (HostText.resolve?_ofBracketed?_iff.2
        ⟨nonempty, inside, Or.inl ⟨rfl, rfl⟩⟩)
    | @bracketedPort host digits port nonempty inside writes =>
      exact parse?_bracketed_iff.2 (HostText.resolve?_ofBracketed?_iff.2
        ⟨nonempty, inside, Or.inr ⟨digits, rfl, writes⟩⟩)

theorem parse?_eq_none_iff :
    parse? text fallback = none ↔ ¬ ∃ target, Names fallback text target := by
  rw [Option.eq_none_iff_forall_ne_some, not_exists]
  exact forall_congr' fun _ => not_congr parse?_eq_some_iff

/-- **A text sets the target that it spells**, and otherwise fails and sets nothing. -/
theorem assign_follows_grammar (text : Bytes) (fallback : UInt16) (outputs : HostPort) :
    (∀ target, outputs.assign text fallback = (true, target) ↔ Names fallback text target) ∧
      (outputs.assign text fallback = (false, outputs) ↔
        ¬ ∃ target, Names fallback text target) := by
  rw [← parse?_eq_none_iff]
  simp only [← parse?_eq_some_iff, assign]
  cases parse? text fallback with
  | none => simp
  | some target => simp

end HostPort

end ProxyRouting
