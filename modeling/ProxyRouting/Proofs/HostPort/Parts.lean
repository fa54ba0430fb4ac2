import ProxyRouting.HostPort

/-!
# The parts of a host with a port

What the readers of a host text find: a port is one to five digits that stand for a number between
1 and 65535 (`port?_eq_some_iff`), a host in brackets ends at the first closing one
(`ofBracketed?_eq_some_iff`), and outside of brackets it ends at a colon, at the last one
(`ofLastColon_of_last`) or at the only one (`ofOnlyColon_of_few`, `ofOnlyColon_of_several`). With a
host that is not empty, and a port if one is written, the text stands for a target
(`resolve?_eq_some_iff`).
-/

namespace ProxyRouting

/-! ### Ports -/

namespace Decimal

/-- `text` is a text of the port: one to five digits, which stand for it, and it is not zero. -/
structure WritesPort (port : UInt16) (text : Bytes) : Prop where
  /-- There is a digit. -/
  nonempty : text ≠ []
  /-- There are at most five. -/
  short : text.length ≤ 5
  /-- There is nothing else. -/
  digits : ∀ b ∈ text, isDigit b = true
  /-- They stand for the port. -/
  value : value text = port.toNat
  /-- It is at least 1, and at most 65535 because it has 16 bits. -/
  positive : 1 ≤ port.toNat

variable {text : Bytes} {port : UInt16}

theorem digits?_eq_some_iff {n : Nat} :
    digits? text = some n ↔ text ≠ [] ∧ (∀ b ∈ text, isDigit b = true) ∧ value text = n := by
  rw [digits?, ← List.all_eq_true]
  split
  · next read => simp only [Option.some.injEq, read, true_and, ne_eq, not_false_eq_true]
  · next unread =>
    simp only [reduceCtorEq, false_iff]
    rintro ⟨nonempty, digits, -⟩
    exact unread ⟨nonempty, digits⟩

theorem port?_eq_some_iff : port? text = some port ↔ WritesPort port text := by
  unfold port?
  constructor
  · intro reads
    split at reads
    · cases reads
    · next short =>
      split at reads
      · next n read =>
        obtain ⟨nonempty, digits, rfl⟩ := digits?_eq_some_iff.1 read
        split at reads
        · next range =>
          cases reads
          have fits : (UInt16.ofNat (value text)).toNat = value text :=
            UInt16.toNat_ofNat_of_lt' (Nat.lt_of_le_of_lt range.2 (by decide))
          exact ⟨nonempty, Nat.le_of_not_lt short, digits, fits.symm, fits.symm ▸ range.1⟩
        · cases reads
      · cases reads
  · rintro ⟨nonempty, short, digits, value, positive⟩
    have small := port.toNat_lt
    rw [if_neg (Nat.not_lt_of_le short),
      digits?_eq_some_iff.2 ⟨nonempty, digits, value⟩]
    dsimp only
    rw [if_pos ⟨positive, by omega⟩, UInt16.ofNat_toNat]

/-- No colon is among the digits of a port. -/
theorem WritesPort.colon_not_mem (writes : WritesPort port text) : colon ∉ text := by
  intro mem
  exact absurd (writes.digits colon mem) (by decide)

end Decimal

/-! ### Hosts -/

namespace HostText

variable {text host : Bytes}

theorem ofBracketed?_eq_some_iff {parts : HostText} :
    ofBracketed? text = some parts ↔ closeBracket ∉ parts.host ∧
      (parts.port = none ∧ text = parts.host ++ [closeBracket] ∨
        ∃ port, parts.port = some port ∧ text = parts.host ++ closeBracket :: colon :: port) := by
  obtain ⟨host, port⟩ := parts
  unfold ofBracketed?
  constructor
  · intro reads
    split at reads
    · cases reads
    · next cut =>
      obtain ⟨rfl, inside⟩ := cutFirst?_eq_some_iff.1 cut
      cases reads
      exact ⟨inside, Or.inl ⟨rfl, rfl⟩⟩
    · next cut =>
      obtain ⟨rfl, inside⟩ := cutFirst?_eq_some_iff.1 cut
      split at reads
      · next eq =>
        subst eq
        cases reads
        exact ⟨inside, Or.inr ⟨_, rfl, rfl⟩⟩
      · cases reads
  · rintro ⟨inside, ⟨rfl, rfl⟩ | ⟨digits, rfl, rfl⟩⟩
    · rw [cutFirst?_eq_some_iff.2 ⟨rfl, inside⟩]
    · rw [cutFirst?_eq_some_iff.2 ⟨rfl, inside⟩]
      exact if_pos rfl

theorem ofLastColon_of_not_mem (noColon : colon ∉ text) : ofLastColon text = ⟨text, none⟩ := by
  rw [ofLastColon, cutLast?_eq_none_iff.2 noColon]

theorem ofLastColon_of_last {port : Bytes} (noColon : colon ∉ port) :
    ofLastColon (host ++ colon :: port) = ⟨host, some port⟩ := by
  rw [ofLastColon, cutLast?_eq_some_iff.2 ⟨rfl, noColon⟩]

/-- With one colon at most, the only colon is the last one. -/
theorem ofOnlyColon_of_few (few : text.count colon ≤ 1) : ofOnlyColon text = ofLastColon text := by
  cases cut : cutFirst? colon text with
  | none => rw [ofOnlyColon, cut, ofLastColon_of_not_mem (cutFirst?_eq_none_iff.1 cut)]
  | some parts =>
    obtain ⟨host, port⟩ := parts
    obtain ⟨rfl, first⟩ := cutFirst?_eq_some_iff.1 cut
    rw [List.count_append, List.count_cons_self] at few
    have noColon : colon ∉ port := List.count_eq_zero.1 (by omega)
    rw [ofOnlyColon, cut, ofLastColon_of_last noColon]
    exact if_neg noColon

/-- With several colons, all of the text is the host. -/
theorem ofOnlyColon_of_several (several : 1 < text.count colon) :
    ofOnlyColon text = ⟨text, none⟩ := by
  cases cut : cutFirst? colon text with
  | none => rw [ofOnlyColon, cut]
  | some parts =>
    obtain ⟨host, port⟩ := parts
    obtain ⟨rfl, first⟩ := cutFirst?_eq_some_iff.1 cut
    rw [List.count_append, List.count_cons_self, List.count_eq_zero.2 first] at several
    have another : colon ∈ port := List.count_pos_iff.1 (by omega)
    rw [ofOnlyColon, cut]
    exact if_pos another

theorem read?_bracketed (unbracketed : Bytes → HostText) :
    read? unbracketed (openBracket :: text) = ofBracketed? text := rfl

theorem read?_of_head (unbracketed : Bytes → HostText) (bare : text.head? ≠ some openBracket) :
    read? unbracketed text = some (unbracketed text) := by
  unfold read?
  split
  · exact absurd rfl bare
  · rfl

/-- A host with the text of its port stands for a target: the host is not empty, and the port is
the one that is written, or else the fallback port. -/
theorem resolve?_eq_some_iff {parts : HostText} {fallback : UInt16} {target : HostPort} :
    parts.resolve? fallback = some target ↔ parts.host ≠ [] ∧ target.host = parts.host ∧
      (parts.port = none ∧ target.port = fallback ∨
        ∃ digits, parts.port = some digits ∧ Decimal.port? digits = some target.port) := by
  obtain ⟨host, port⟩ := parts
  obtain ⟨targetHost, targetPort⟩ := target
  unfold resolve?
  by_cases empty : host = []
  · simp [empty]
  · cases port with
    | none => simp [empty, eq_comm]
    | some digits =>
      simp only [empty, if_false, Option.map_eq_some_iff, HostPort.mk.injEq, ne_eq,
        not_false_eq_true, true_and, reduceCtorEq, false_and, false_or, Option.some.injEq,
        exists_eq_left']
      constructor
      · rintro ⟨port, reads, rfl, rfl⟩
        exact ⟨rfl, reads⟩
      · rintro ⟨rfl, reads⟩
        exact ⟨_, reads, rfl, rfl⟩

/-- A host alone stands for itself with the fallback port. -/
theorem resolve?_alone_iff {fallback : UInt16} {target : HostPort} :
    (⟨host, none⟩ : HostText).resolve? fallback = some target ↔
      host ≠ [] ∧ target = ⟨host, fallback⟩ := by
  obtain ⟨targetHost, targetPort⟩ := target
  rw [resolve?_eq_some_iff]
  simp only [true_and, reduceCtorEq, false_and, exists_false, or_false, HostPort.mk.injEq]

/-- A host and the text of a port stand for the two. -/
theorem resolve?_withPort_iff {digits : Bytes} {fallback : UInt16} {target : HostPort} :
    (⟨host, some digits⟩ : HostText).resolve? fallback = some target ↔
      host ≠ [] ∧ ∃ port, Decimal.WritesPort port digits ∧ target = ⟨host, port⟩ := by
  obtain ⟨targetHost, targetPort⟩ := target
  rw [resolve?_eq_some_iff]
  simp only [reduceCtorEq, false_and, false_or, Option.some.injEq, exists_eq_left',
    Decimal.port?_eq_some_iff, HostPort.mk.injEq]
  constructor
  · rintro ⟨nonempty, rfl, writes⟩
    exact ⟨nonempty, targetPort, writes, rfl, rfl⟩
  · rintro ⟨nonempty, port, writes, rfl, rfl⟩
    exact ⟨nonempty, rfl, writes⟩

/-- What follows an opening bracket stands for a target: a host up to the first closing bracket,
and a port if one is written. -/
theorem resolve?_ofBracketed?_iff {fallback : UInt16} {target : HostPort} :
    (∃ parts, ofBracketed? text = some parts ∧ parts.resolve? fallback = some target) ↔
      target.host ≠ [] ∧ closeBracket ∉ target.host ∧
        (text = target.host ++ [closeBracket] ∧ target.port = fallback ∨
          ∃ digits, text = target.host ++ closeBracket :: colon :: digits ∧
            Decimal.WritesPort target.port digits) := by
  constructor
  · rintro ⟨⟨host, port⟩, reads, resolves⟩
    obtain ⟨inside, ⟨rfl, rfl⟩ | ⟨digits, rfl, rfl⟩⟩ := ofBracketed?_eq_some_iff.1 reads
    · obtain ⟨nonempty, rfl⟩ := resolve?_alone_iff.1 resolves
      exact ⟨nonempty, inside, Or.inl ⟨rfl, rfl⟩⟩
    · obtain ⟨nonempty, port, writes, rfl⟩ := resolve?_withPort_iff.1 resolves
      exact ⟨nonempty, inside, Or.inr ⟨digits, rfl, writes⟩⟩
  · obtain ⟨host, port⟩ := target
    rintro ⟨nonempty, inside, ⟨rfl, rfl⟩ | ⟨digits, rfl, writes⟩⟩
    · exact ⟨⟨host, none⟩, ofBracketed?_eq_some_iff.2 ⟨inside, Or.inl ⟨rfl, rfl⟩⟩,
        resolve?_alone_iff.2 ⟨nonempty, rfl⟩⟩
    · exact ⟨⟨host, some digits⟩, ofBracketed?_eq_some_iff.2 ⟨inside, Or.inr ⟨digits, rfl, rfl⟩⟩,
        resolve?_withPort_iff.2 ⟨nonempty, port, writes, rfl⟩⟩

end HostText

theorem HostPort.parse?_eq_bind (text : Bytes) (fallback : UInt16) :
    HostPort.parse? text fallback =
      (HostText.read? HostText.ofOnlyColon text).bind (·.resolve? fallback) := by
  unfold HostPort.parse?
  cases HostText.read? HostText.ofOnlyColon text with
  | none => rfl
  | some parts => rfl

end ProxyRouting
