import ProxyRouting.Proofs.Connection.Queue
import ProxyRouting.Proofs.Connection.Steps
import ProxyRouting.Proofs.Socks5.Buffering

/-!
# How much an attempt holds back

A read gives a part of the stream, and it is issued only when the handshake needs more bytes. So the
bytes of the longest answer but one, and those of one read, are all that a handshake ever holds.

What is kept from one operation to the next is less. The bytes behind an answer came in with its
last one, in one read, and so they are fewer than a read gives (`left_perform`). This carries over
to attempts side by side, turn by turn (`Course.modest_iterate`).
-/

namespace ProxyRouting.Connection

open Socks5 (Handshake Stage Call)

variable {a : Attempt} {h : Handshake} {script : Script}

/-! ### Bytes behind an answer -/

/-- How many bytes are left behind the last answer, while a message is sent or when the connection
is open. -/
def Progress.left : Progress → Nat
  | .waiting (.write _ handshake) => handshake.buffered
  | .finished (.opened leftover) => leftover.length
  | _ => 0

theorem left_ofOutcome (result : Socks5.Outcome × Handshake) :
    (Progress.ofOutcome result).left = Handshake.left result := by
  obtain ⟨outcome, handshake⟩ := result
  cases outcome <;> rfl

/-- A read gives at most as many bytes as it asks for. -/
theorem Script.length_le_of_read {bytes : Bytes} (given : script.read.1 = .ok (some bytes)) :
    bytes.length ≤ readSize := by
  unfold read at given
  split at given
  · cases given
  · cases given
  · split at given
    · next fits =>
      cases given
      exact fits
    · cases given
      exact List.length_take_le _ _

/-- After a message was sent, no bytes come in. -/
theorem left_feed_nil (waits : h.InNegotiation) :
    (Progress.ofOutcome (h.feed [])).left ≤ h.buffered := by
  obtain ⟨stage, held, phase⟩ := waits
  have isHeld : h.buffered = held.length := by
    simp only [Handshake.buffered, Handshake.buffer, phase]
  have := h.left_receive_le stage held
  rw [left_ofOutcome, Handshake.feed, phase, isHeld]
  dsimp only
  rwa [List.append_nil]

/-- Of the bytes of a read, one at least belongs to the answer. -/
theorem left_feed_of_ready (ready : Ready (.read h)) (bytes : Bytes) :
    (Progress.ofOutcome (h.feed bytes)).left ≤ bytes.length - 1 := by
  obtain ⟨stage, held, phase, waited⟩ := receive_of_ready ready
  rw [left_ofOutcome, Handshake.feed, phase]
  exact Handshake.left_le_of_waited waited bytes

/-- What is known of an operation: it was not started too early, and less is left behind the last
answer than a read gives. -/
structure Pending.Modest (pending : Pending) : Prop where
  /-- The handshake waits for an answer, and holds none before a read. -/
  ready : Ready pending
  /-- Few bytes are left. -/
  left : (Progress.waiting pending).left < Script.readSize

/-- **An operation leaves less than a read gives.** -/
theorem left_perform (script : Script) (a : Attempt) {pending : Pending}
    (modest : pending.Modest) : (perform script a pending).progress.left < Script.readSize := by
  have nothing : 0 < Script.readSize := by decide
  obtain ⟨ready, few⟩ := modest
  cases pending with
  | resolve =>
    simp only [perform, Attempt.resolved]
    split <;> exact nothing
  | connect =>
    simp only [perform, Attempt.connected]
    split
    · exact nothing
    · split
      · rcases Handshake.start_cases (h := a.handshake) rfl with ⟨_, -, -, emits⟩ | ⟨_, fails⟩
        · rw [emits]
          exact nothing
        · rw [fails]
          exact nothing
      · exact nothing
  | write message handshake =>
    simp only [perform]
    cases script.write.1 with
    | error _ => exact nothing
    | ok _ =>
      rw [written_of_inNegotiation ready]
      exact Nat.lt_of_le_of_lt (left_feed_nil ready) few
  | read handshake =>
    simp only [perform]
    rcases given : script.read.1 with _ | _ | bytes
    · exact nothing
    · exact nothing
    · have := left_feed_of_ready ready bytes
      have := Script.length_le_of_read given
      simp only [Attempt.received]
      omega

/-! ### Bytes held at a time -/

/-- How many bytes the handshake of an operation holds at most until the next one is started. Those
that a read gives are put behind the others before any are taken off. -/
def Pending.peak (script : Script) : Pending → Nat
  | .resolve => 0
  | .connect => 0
  | .write _ handshake => handshake.buffered
  | .read handshake =>
    match script.read.1 with
    | .ok (some bytes) => (handshake.extend bytes).buffered
    | _ => handshake.buffered

/-- Before a read, less than an answer is held. -/
theorem buffered_of_ready (ready : Ready (.read h)) : h.buffered ≤ 261 := by
  obtain ⟨stage, held, phase, waited⟩ := receive_of_ready ready
  have := Handshake.length_lt_of_needMore waited
  have := stage.longest_le
  simp only [Handshake.buffered, Handshake.buffer, phase]
  omega

theorem Pending.Modest.peak_le {pending : Pending} (modest : pending.Modest) (script : Script) :
    pending.peak script ≤ 261 + Script.readSize := by
  obtain ⟨ready, few⟩ := modest
  cases pending with
  | resolve => exact Nat.zero_le _
  | connect => exact Nat.zero_le _
  | write message handshake => exact Nat.le_trans (Nat.le_of_lt few) (Nat.le_add_left _ _)
  | read handshake =>
    have held := buffered_of_ready ready
    rcases given : script.read.1 with _ | _ | bytes
    · simp only [peak, given]
      omega
    · simp only [peak, given]
      omega
    · have waits : handshake.InNegotiation := ready.1
      have := Script.length_le_of_read given
      simp only [peak, given, waits.buffered_extend]
      omega

/-! ### Attempts side by side -/

namespace Course

variable {c c' : Course}

/-- Little is held by all attempts that go on, and was left over by those that have ended. -/
structure Modest (c : Course) : Prop where
  /-- The operations that are pending. -/
  pending : ∀ entry ∈ c.queue, entry.2.Modest
  /-- The attempts that have ended. -/
  ended : ∀ entry ∈ c.past.endings, (Progress.finished entry.2).left < Script.readSize

theorem modest_start (script : Script) (attempts : List Attempt) :
    (start script attempts).Modest where
  pending := by
    intro entry mem
    obtain ⟨a, -, rfl⟩ := List.mem_map.1 mem
    exact ⟨trivial, Nat.zero_lt_succ _⟩
  ended := by
    intro entry mem
    cases mem

/-- A turn ends an operation, and starts the next one or ends the attempt. -/
theorem Turns.modest (turns : Turns c c') (modest : c.Modest) : c'.Modest := by
  obtain ⟨pending, ended⟩ := modest
  cases turns with
  | idle script past => exact ⟨pending, ended⟩
  | @goesOn script script' a before next events rest past performed =>
    have first : before.Modest := pending _ List.mem_cons_self
    have leads : Leads a ⟨script, before⟩ ⟨script', next⟩ := ⟨events, performed⟩
    have few := left_perform script a first
    rw [performed] at few
    refine ⟨fun entry mem => ?_, ended⟩
    rcases List.mem_append.1 mem with other | new
    · exact pending entry (List.mem_cons_of_mem _ other)
    · obtain rfl := List.mem_singleton.1 new
      exact ⟨ready_of_leads leads first.ready, few⟩
  | @ends script script' a before ending events rest past performed =>
    have few := left_perform script a (pending _ List.mem_cons_self)
    rw [performed] at few
    refine ⟨fun entry mem => pending entry (List.mem_cons_of_mem _ mem), fun entry mem => ?_⟩
    rcases List.mem_append.1 mem with earlier | new
    · exact ended entry earlier
    · obtain rfl := List.mem_singleton.1 new
      exact few

theorem modest_iterate (n : Nat) (modest : c.Modest) : (turn^[n] c).Modest := by
  induction n generalizing c with
  | zero => exact modest
  | succ n ih => exact ih (c.turns_turn.modest modest)

end Course

open Course

/-- What is left over by attempts is less than a read gives. -/
theorem leftover_of_results (script : Script) (attempts : List Attempt) {result : Result}
    (mem : result ∈ (runAll script attempts).results) :
    result.leftover.length < Script.readSize := by
  obtain ⟨n, -, -, past⟩ := runAll_ends script attempts
  obtain ⟨⟨a, ending⟩, ended, rfl⟩ := List.mem_map.1 mem
  rw [← past] at ended
  have few := (modest_iterate n (modest_start script attempts)).ended _ ended
  cases ending with
  | opened leftover => exact few
  | failed error => exact Nat.zero_lt_succ _

/-- **A server cannot make a handshake hoard bytes.** After any calls, one that needs more bytes
keeps all that it holds and those fed, and these are at most 261, and at most 1 before the CONNECT
request is sent. One that is not waiting for an answer holds none. In every run of some attempts
over a script, a handshake holds at most 261 bytes when a read is issued, and never more than 773,
and at most 511 bytes are left over when a connection is open. -/
theorem holds_few_bytes (target : HostPort) (credentials : Option Credentials) (calls : List Call)
    (script : Script) (attempts : List Attempt) :
    let h := Handshake.run { target, credentials } calls
    (∀ call, (h.answer call).1 = .needMore →
      ∃ stage, h.phase = .waiting stage h.buffer ∧
        (h.answer call).2.phase = .waiting stage (h.buffer ++ call.bytes) ∧
        (h.answer call).2.buffered ≤ 261 ∧
        (stage ≠ .connecting → (h.answer call).2.buffered ≤ 1)) ∧
    (h.phase = .idle ∨ h.Over → h.buffer = []) ∧
    (∀ n a pending, (a, pending) ∈ (turn^[n] (start script attempts)).queue →
      (∀ handshake, pending = .read handshake → handshake.buffered ≤ 261) ∧
        pending.peak (turn^[n] (start script attempts)).script ≤ 773) ∧
    ∀ result ∈ (runAll script attempts).results, result.leftover.length ≤ 511 := by
  intro h
  refine ⟨fun call waits => ?_, ?_, fun n a pending mem => ?_, fun result mem => ?_⟩
  · obtain ⟨stage, before, after, short⟩ := h.waits_of_needMore call waits
    have held : (h.answer call).2.buffered = (h.buffer ++ call.bytes).length := by
      simp only [Handshake.buffered, Handshake.buffer, after]
    rw [← held] at short
    have := stage.longest_le
    refine ⟨stage, before, after, by omega, fun early => ?_⟩
    cases stage with
    | greeting => exact Nat.le_of_lt_succ short
    | authenticating => exact Nat.le_of_lt_succ short
    | connecting => exact absurd rfl early
  · rintro (idle | isOver)
    · simp only [Handshake.buffer, idle]
    · exact isOver.buffer
  · have modest := (modest_iterate n (modest_start script attempts)).pending _ mem
    refine ⟨?_, modest.peak_le _⟩
    rintro handshake rfl
    exact buffered_of_ready modest.ready
  · exact Nat.le_of_lt_succ (leftover_of_results script attempts mem)

/-- The bounds are reached: of the longest reply all bytes but the last are there, and a read gives
that one with 511 others behind it. -/
example :
    let a : Attempt := ⟨ascii "p", ⟨Scheme.socks5, ascii "10.0.0.2", 1080⟩, ⟨ascii "10.0.0.1", 443⟩,
      none⟩
    let script : Script :=
      { arrivals := [.data [5, 0], .data ([5, 0, 0, 3, 255] ++ List.replicate 256 0),
          .data (List.replicate 512 0)] }
    let c := turn^[6] (start script [a])
    c.queue.map (·.2.peak {}) = [261] ∧ c.queue.map (·.2.peak c.script) = [773] ∧
      (runAll script [a]).results.map (·.leftover.length) = [511] := by decide +kernel

end ProxyRouting.Connection
