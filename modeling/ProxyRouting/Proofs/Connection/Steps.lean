import Mathlib.Logic.Relation
import ProxyRouting.Connection.Trace
import ProxyRouting.Proofs.Socks5.Grammar
import ProxyRouting.Proofs.Socks5.Monotonicity

/-!
# Steps of an attempt

An attempt goes from one pending operation to the next. Whatever the network does, an
attempt that waits for a write or a read holds a handshake that waits for an answer, and it
reads only when the handshake has nothing to do with the bytes it holds: it holds no complete
answer (`no_answer_held_by_read`).

With that, going on after a write is feeding the handshake nothing (`written_of_inNegotiation`),
whether bytes are there already or not.
-/

namespace ProxyRouting.Connection

open Socks5 (Handshake Whole)

variable {a : Attempt} {h : Handshake}

/-! ### Situations -/

/-- How far an attempt is, and what the network will do. -/
structure Situation where
  /-- What the network will do. -/
  script : Script
  /-- The operation that the attempt waits for. -/
  pending : Pending
  deriving DecidableEq, Repr

/-- The situation in which an attempt is started. -/
def Situation.initial (script : Script) : Situation := ⟨script, .resolve⟩

/-- One operation comes to its end and the next one is started. -/
def Leads (a : Attempt) (s t : Situation) : Prop :=
  ∃ events, perform s.script a s.pending = ⟨.waiting t.pending, events, t.script⟩

/-- An attempt that is started over the script comes to the situation. -/
def Reaches (a : Attempt) (script : Script) (s : Situation) : Prop :=
  Relation.ReflTransGen (Leads a) (.initial script) s

/-! ### The handshake of a pending operation -/

/-- What is known of the handshake of an operation: it waits for an answer, and before a read
it has no use for the bytes it holds. -/
def Ready : Pending → Prop
  | .resolve => True
  | .connect => True
  | .write _ handshake => handshake.InNegotiation
  | .read handshake => handshake.InNegotiation ∧ handshake.feed [] = (.needMore, handshake)

/-- What feeding leads to is ready. -/
theorem ready_of_feed {pending : Pending} {bytes : Bytes} (waits : h.InNegotiation)
    (next : Progress.ofOutcome (h.feed bytes) = .waiting pending) : Ready pending := by
  rcases h.feed_cases bytes with fed | ⟨_, _, fed, -⟩ | ⟨_, _, fed, later⟩ | ⟨_, _, fed, -⟩
  · have still : (h.extend bytes).feed [] = (.needMore, h.extend bytes) := by
      rw [Handshake.feed_extend, List.append_nil, fed]
    rw [fed] at next
    cases next
    exact ⟨waits.extend bytes, still⟩
  · rw [fed] at next
    cases next
  · rw [fed] at next
    cases next
    exact later
  · rw [fed] at next
    cases next

/-- A handshake that waits and holds nothing needs more bytes. -/
theorem feed_nil_of_buffered_eq_zero (waits : h.InNegotiation) (nothing : h.buffered = 0) :
    h.feed [] = (.needMore, h) := by
  obtain ⟨target, credentials, phase⟩ := h
  obtain ⟨stage, held, rfl⟩ := waits
  obtain rfl := List.eq_nil_of_length_eq_zero nothing
  cases stage <;> rfl

/-- Going on after a write is feeding nothing: the look at the bytes held saves a call only. -/
theorem written_of_inNegotiation (waits : h.InNegotiation) :
    Attempt.written h (.ok ()) = .ofOutcome (h.feed []) := by
  unfold Attempt.written
  split_ifs with nothing
  · rw [feed_nil_of_buffered_eq_zero waits nothing]
    rfl
  · rfl

/-! ### Every situation is ready -/

theorem ready_of_leads {s t : Situation} (leads : Leads a s t) (ready : Ready s.pending) :
    Ready t.pending := by
  obtain ⟨script, pending⟩ := s
  obtain ⟨script', later⟩ := t
  obtain ⟨events, performed⟩ := leads
  have next : (perform script a pending).progress = .waiting later := by rw [performed]
  -- What comes next is fixed by the operation that has ended.
  cases pending with
  | resolve =>
    simp only [perform, Attempt.resolved] at next
    split at next
    · cases next
    · cases next
    · cases next
      trivial
  | connect =>
    simp only [perform, Attempt.connected] at next
    split at next
    · cases next
    · split_ifs at next
      rcases Handshake.start_cases (h := a.handshake) rfl with ⟨_, -, -, emits⟩ | ⟨_, fails⟩
      · rw [emits] at next
        cases next
        exact ⟨.greeting, [], rfl⟩
      · rw [fails] at next
        cases next
  | write message handshake =>
    simp only [perform] at next
    cases written : script.write.1 with
    | error message =>
      rw [written] at next
      cases next
    | ok _ =>
      rw [written, written_of_inNegotiation ready] at next
      exact ready_of_feed ready next
  | read handshake =>
    simp only [perform, Attempt.received] at next
    split at next
    · cases next
    · cases next
    · exact ready_of_feed ready.1 next

theorem ready_of_reaches {script : Script} {s : Situation} (reaches : Reaches a script s) :
    Ready s.pending := by
  induction reaches with
  | refl => trivial
  | tail _ leads ih => exact ready_of_leads leads ih

/-- A handshake that is ready for a read needs more bytes. -/
theorem receive_of_ready (ready : Ready (.read h)) :
    ∃ stage held, h.phase = .waiting stage held ∧ (h.receive stage held).1 = .needMore := by
  obtain ⟨⟨stage, held, phase⟩, waits⟩ := ready
  simp only [Handshake.feed, phase, List.append_nil] at waits
  exact ⟨stage, held, phase, by rw [waits]⟩

/-- **A read is never issued too early**: whatever the network does, the handshake of an attempt
that reads waits for an answer and holds no complete one. -/
theorem no_answer_held_by_read {script script' : Script}
    (reaches : Reaches a script ⟨script', .read h⟩) :
    ∃ stage held, h.phase = .waiting stage held ∧
      ∀ answer, Whole stage answer → ¬ answer <+: held := by
  obtain ⟨stage, held, phase, waits⟩ := receive_of_ready (ready_of_reaches reaches)
  exact ⟨stage, held, phase, fun _ => Handshake.not_whole_of_needMore waits⟩

end ProxyRouting.Connection
