import ProxyRouting.Proofs.Socks5.Monotonicity

/-!
# Calls in any order

Nothing keeps the owner of a connection from calling `start` and `feed` in any order, and from
going on after the handshake is over. A handshake that is over refuses every call with an error
and holds no bytes back, whatever is called and how often.

Feeding it leaves it as it is, so that the first cause of a failure is told again and again.
Starting it does not: `start` fails a handshake in every phase but the first, also one whose
tunnel is open, and puts its own error in place of that of an earlier failure. `Over.run` says
what comes of all calls, and `over_stays` what of it an owner can rely on.
-/

namespace ProxyRouting.Socks5

/-- A call to a handshake. -/
inductive Call where
  /-- To begin the negotiation. -/
  | start
  /-- To handle bytes that have come in. -/
  | feed (bytes : Bytes)
  deriving DecidableEq, Repr

namespace Handshake

/-! ### Runs of calls -/

/-- What a call comes to. -/
def answer (h : Handshake) : Call → Outcome × Handshake
  | .start => h.start
  | .feed bytes => h.feed bytes

/-- The handshake after some calls. -/
def run (h : Handshake) (calls : List Call) : Handshake :=
  calls.foldl (fun h call => (h.answer call).2) h

/-- The outcomes of some calls, one for each. -/
def outcomes (h : Handshake) : List Call → List Outcome
  | [] => []
  | call :: rest => (h.answer call).1 :: (h.answer call).2.outcomes rest

variable {h : Handshake}

theorem run_cons (call : Call) (rest : List Call) :
    h.run (call :: rest) = (h.answer call).2.run rest := rfl

theorem outcomes_cons (call : Call) (rest : List Call) :
    h.outcomes (call :: rest) = (h.answer call).1 :: (h.answer call).2.outcomes rest := rfl

/-! ### One call after the end -/

/-- The error with which bytes are refused after the end: the cause of the failure, or that the
tunnel is open already. -/
def refusal (h : Handshake) : Error := h.error?.getD .alreadyEstablished

theorem refusal_of_failed {error : Error} (failed : h.phase = .failed error) :
    h.refusal = error := by
  simp only [refusal, error?, failed, Option.getD_some]

theorem refusal_of_established (established : h.phase = .established) :
    h.refusal = .alreadyEstablished := by
  simp only [refusal, error?, established, Option.getD_none]

theorem Over.buffer (isOver : h.Over) : h.buffer = [] := by
  rcases isOver with established | ⟨error, failed⟩
  · simp only [Handshake.buffer, established]
  · simp only [Handshake.buffer, failed]

theorem over_fail (h : Handshake) (error : Error) : (h.fail error).2.Over := Or.inr ⟨error, rfl⟩

theorem Over.answer_feed (isOver : h.Over) (bytes : Bytes) :
    h.answer (.feed bytes) = (.failed h.refusal, h) := by
  rcases isOver with established | ⟨error, failed⟩
  · rw [refusal_of_established established, answer, Handshake.feed, established]
  · rw [refusal_of_failed failed, answer, Handshake.feed, failed]

/-- A handshake that is over is past its first phase, so it cannot be started. -/
theorem Over.answer_start (isOver : h.Over) : h.answer .start = h.fail .alreadyStarted := by
  rcases isOver with established | ⟨error, failed⟩
  · rw [answer, start, established]
  · rw [answer, start, failed]

/-! ### All calls after the end -/

/-- **What comes of calls after the end**: the handshake stays as it is unless it is started
among them, and has failed because of that otherwise. -/
theorem Over.run (isOver : h.Over) (calls : List Call) :
    h.run calls = if .start ∈ calls then (h.fail .alreadyStarted).2 else h := by
  induction calls generalizing h with
  | nil => rfl
  | cons call rest ih =>
    cases call with
    | start =>
      -- A second failure of the same kind changes nothing, so the later calls do not matter.
      have again : (h.fail .alreadyStarted).2.run rest = (h.fail .alreadyStarted).2 := by
        rw [ih (h.over_fail _)]
        exact ite_self _
      rw [run_cons, isOver.answer_start, again, if_pos List.mem_cons_self]
    | feed bytes =>
      rw [run_cons, isOver.answer_feed, ih isOver]
      simp only [List.mem_cons, reduceCtorEq, false_or]

/-- Every call after the end is refused. -/
theorem Over.refuses (isOver : h.Over) {calls : List Call} {outcome : Outcome}
    (told : outcome ∈ h.outcomes calls) : ∃ error, outcome = .failed error := by
  induction calls generalizing h with
  | nil => cases told
  | cons call rest ih =>
    rw [outcomes_cons, List.mem_cons] at told
    cases call with
    | start =>
      rw [isOver.answer_start] at told
      rcases told with rfl | later
      · exact ⟨.alreadyStarted, rfl⟩
      · exact ih (h.over_fail _) later
    | feed bytes =>
      rw [isOver.answer_feed] at told
      rcases told with rfl | later
      · exact ⟨h.refusal, rfl⟩
      · exact ih isOver later

/-- As long as no call changes the handshake, they are all refused with the same error. -/
theorem Over.refuses_alike (isOver : h.Over) {calls : List Call} {outcome : Outcome}
    (harmless : .start ∈ calls → h.phase = .failed .alreadyStarted)
    (told : outcome ∈ h.outcomes calls) : outcome = .failed h.refusal := by
  induction calls generalizing h with
  | nil => cases told
  | cons call rest ih =>
    have same : h.answer call = (.failed h.refusal, h) := by
      cases call with
      | start =>
        have failed := harmless List.mem_cons_self
        rw [isOver.answer_start, refusal_of_failed failed, fail, ← failed]
      | feed bytes => exact isOver.answer_feed bytes
    rw [outcomes_cons, same, List.mem_cons] at told
    rcases told with rfl | later
    · rfl
    · exact ih isOver (fun restarted => harmless (List.mem_cons_of_mem _ restarted)) later

/-- **The end is final**: after calls in any order that a handshake is over with, every later call
is refused, no bytes are held back, and what failed stays failed. If it is not started among the
later calls, or failed because it was started twice, then nothing changes at all: an open tunnel
stays open, and after a failure its cause is told every time. -/
theorem over_stays (target : HostPort) (credentials : Option Credentials)
    (before later : List Call) (isOver : (run { target, credentials } before).Over) :
    let h := run { target, credentials } before
    (h.buffer = [] ∧ (h.run later).buffer = [] ∧
      (∀ outcome ∈ h.outcomes later, ∃ error, outcome = .failed error) ∧
      ((∃ error, h.phase = .failed error) → ∃ error, (h.run later).phase = .failed error)) ∧
    ((.start ∈ later → h.phase = .failed .alreadyStarted) →
      h.run later = h ∧
      (∀ error, h.phase = .failed error →
        ∀ outcome ∈ h.outcomes later, outcome = .failed error) ∧
      (h.phase = .established →
        ∀ outcome ∈ h.outcomes later, outcome = .failed .alreadyEstablished)) := by
  intro h
  have isOver : h.Over := isOver
  have afterwards := isOver.run later
  refine ⟨⟨isOver.buffer, ?_, fun outcome => isOver.refuses, ?_⟩, fun harmless => ⟨?_, ?_, ?_⟩⟩
  · rw [afterwards]
    split
    · exact (h.over_fail _).buffer
    · exact isOver.buffer
  · intro failed
    rw [afterwards]
    split
    · exact ⟨_, rfl⟩
    · exact failed
  · rw [afterwards]
    split
    · next restarted => rw [fail, ← harmless restarted]
    · rfl
  · intro error failed outcome told
    rw [isOver.refuses_alike harmless told, refusal_of_failed failed]
  · intro established outcome told
    rw [isOver.refuses_alike harmless told, refusal_of_established established]

/-- Bytes that are fed to an open tunnel. -/
theorem over_stays_when_fed :
    (run (run { target := ⟨ascii "10.0.0.1", 443⟩, credentials := none }
          [.start, .feed [5, 0], .feed [5, 0, 0, 1, 127, 0, 0, 1, 0x1f, 0x90]])
        [.feed [0x78], .feed []]).phase = .established := by
  have established : (run { target := ⟨ascii "10.0.0.1", 443⟩, credentials := none }
      [.start, .feed [5, 0], .feed [5, 0, 0, 1, 127, 0, 0, 1, 0x1f, 0x90]]).phase =
      .established := by decide +kernel
  have unchanged := ((over_stays ⟨ascii "10.0.0.1", 443⟩ none
    [.start, .feed [5, 0], .feed [5, 0, 0, 1, 127, 0, 0, 1, 0x1f, 0x90]]
    [.feed [0x78], .feed []] (Or.inl established)).2 (fun restarted => by simp at restarted)).1
  rw [unchanged, established]

/-- A tunnel that is open fails when it is started again, and a failure then loses its cause. -/
theorem restarted_after_end :
    (run { target := ⟨ascii "10.0.0.1", 443⟩, credentials := none }
        [.start, .feed [5, 0], .feed [5, 0, 0, 1, 127, 0, 0, 1, 0x1f, 0x90]]).phase =
        .established ∧
      (run { target := ⟨ascii "10.0.0.1", 443⟩, credentials := none }
        [.start, .feed [5, 0], .feed [5, 0, 0, 1, 127, 0, 0, 1, 0x1f, 0x90], .start]).phase =
        .failed .alreadyStarted ∧
      (run { target := ⟨ascii "10.0.0.1", 443⟩, credentials := none } [.feed []]).phase =
        .failed .notStarted ∧
      (run { target := ⟨ascii "10.0.0.1", 443⟩, credentials := none } [.feed [], .start]).phase =
        .failed .alreadyStarted := by decide +kernel

end Handshake

end ProxyRouting.Socks5
