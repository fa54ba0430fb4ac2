import ProxyRouting.Proofs.Connection.Stream

/-!
# The history of an attempt

What the network sees of an attempt is a list of events, to which each operation adds its end
and the start of the next one. `Comes` is how an attempt gets from its start to some situation,
with all that was seen on the way.

Each operation leaves less to do, so an attempt comes to its end. What was seen up to the last
operation, and the end of that, are then all events of the run, and there is one ending
(`exists_last`).
-/

namespace ProxyRouting.Connection

open Socks5 (Handshake greeting)

variable {a : Attempt} {script : Script} {seen : List Event} {s : Situation}

/-- An attempt that is started over the script comes to the situation, and these events are
seen. -/
inductive Comes (a : Attempt) (script : Script) : List Event → Situation → Prop
  /-- It is started. -/
  | start : Comes a script (started a .resolve) (.initial script)
  /-- An operation has ended, and the next one is started. -/
  | step {seen events : List Event} {s t : Situation} : Comes a script seen s →
      perform s.script a s.pending = ⟨.waiting t.pending, events, t.script⟩ →
      Comes a script (seen ++ (events ++ started a t.pending)) t

theorem Comes.reaches (comes : Comes a script seen s) : Reaches a script s := by
  induction comes with
  | start => exact .refl
  | step _ performed ih => exact ih.tail ⟨_, performed⟩

theorem Trace.after_after (earlier later : List Event) (trace : Trace) :
    (trace.after later).after earlier = trace.after (earlier ++ later) := by
  simp only [Trace.after, List.append_assoc]

/-- The whole run is what was seen so far and the run from here on. -/
theorem Comes.runAll_eq (comes : Comes a script seen s) :
    runAll script [a] = (run s.script [(a, s.pending)]).after seen := by
  induction comes with
  | start => rfl
  | step _ performed ih =>
    rw [ih, run_singleton, performed, follow, Trace.after_after, Trace.after_after]
    simp only [List.append_assoc]

/-- When the last operation has ended, everything has been seen, and there is one ending. -/
theorem Comes.runAll_of_finished {ending : Ending} {last : List Event} {script' : Script}
    (comes : Comes a script seen s)
    (finished : perform s.script a s.pending = ⟨.finished ending, last, script'⟩) :
    runAll script [a] = { events := seen ++ last, endings := [(a, ending)] } := by
  rw [comes.runAll_eq, run_singleton, finished, follow, Trace.after_after]
  simp only [Trace.after, List.append_nil]

/-- **An attempt comes to its end.** The induction is on the work that remains. -/
theorem Comes.exists_end {seen : List Event} {s : Situation} (comes : Comes a script seen s) :
    ∃ seen s ending last script', Comes a script seen s ∧
      perform s.script a s.pending = ⟨.finished ending, last, script'⟩ := by
  have less := remaining_perform s.script a s.pending
  rcases performed : perform s.script a s.pending with ⟨next | ending, events, script'⟩
  · have fewer : script'.size + next.remaining < s.script.size + s.pending.remaining := by
      rw [performed] at less
      exact less
    have later : Comes a script _ ⟨script', next⟩ := comes.step performed
    exact later.exists_end
  · exact ⟨seen, s, ending, events, script', comes, performed⟩
termination_by s.script.size + s.pending.remaining

/-- Every run has a last operation. Before it the attempt has come to some situation, and its end
is that of the attempt. -/
theorem exists_last (a : Attempt) (script : Script) :
    ∃ seen s ending last script', Comes a script seen s ∧
      perform s.script a s.pending = ⟨.finished ending, last, script'⟩ ∧
      runAll script [a] = { events := seen ++ last, endings := [(a, ending)] } := by
  obtain ⟨seen, s, ending, last, script', comes, finished⟩ :=
    (Comes.start : Comes a script _ _).exists_end
  exact ⟨seen, s, ending, last, script', comes, finished, comes.runAll_of_finished finished⟩

/-! ### What follows an operation -/

/-- **The ways to go on** after an operation: from resolving to connecting, to the greeting of a
tunnel, and from a message sent or bytes received to what the handshake wants next. -/
theorem next_cases {script' : Script} {pending next : Pending} {events : List Event}
    (ready : Ready pending)
    (performed : perform script a pending = ⟨.waiting next, events, script'⟩) :
    (pending = .resolve ∧ next = .connect ∧ events = [] ∧ script' = script) ∨
      (pending = .connect ∧ Scheme.isTunnel a.via.scheme = true ∧
        next = .write (greeting a.credentials.isSome) (a.handshake.awaiting .greeting) ∧
        events = [] ∧ script' = script) ∨
      (∃ message h, pending = .write message h ∧ script.write = (.ok (), script') ∧ events = [] ∧
        Progress.ofOutcome (h.feed []) = .waiting next) ∨
      ∃ h bytes, pending = .read h ∧ script.read = (.ok (some bytes), script') ∧
        events = [.read bytes.length] ∧ Progress.ofOutcome (h.feed bytes) = .waiting next := by
  cases pending with
  | resolve =>
    simp only [perform, Attempt.resolved] at performed
    split at performed
    · cases performed
    · cases performed
    · cases performed
      exact Or.inl ⟨rfl, rfl, rfl, rfl⟩
  | connect =>
    simp only [perform, Attempt.connected] at performed
    split at performed
    · cases performed
    · split_ifs at performed with tunnel
      · rcases Handshake.start_cases (h := a.handshake) rfl with ⟨_, -, -, emits⟩ | ⟨_, fails⟩
        · rw [emits] at performed
          cases performed
          exact Or.inr (Or.inl ⟨rfl, tunnel, rfl, rfl, rfl⟩)
        · rw [fails] at performed
          cases performed
      · cases performed
  | write message h =>
    rcases written : script.write with ⟨_ | _, after⟩
    · simp only [perform, written, Attempt.written] at performed
      cases performed
    · simp only [perform, written, written_of_inNegotiation ready, Step.mk.injEq] at performed
      obtain ⟨next, rfl, rfl⟩ := performed
      exact Or.inr (Or.inr (Or.inl ⟨message, h, rfl, rfl, rfl, next⟩))
  | read h =>
    rcases given : script.read with ⟨_ | _ | bytes, after⟩
    · simp only [perform, given, Attempt.received] at performed
      cases performed
    · simp only [perform, given, Attempt.received] at performed
      cases performed
    · simp only [perform, given, Attempt.received, Step.mk.injEq] at performed
      obtain ⟨next, rfl, rfl⟩ := performed
      exact Or.inr (Or.inr (Or.inr ⟨h, bytes, rfl, rfl, rfl, next⟩))

/-- What is seen when an operation ends is that a read has ended, if anything. -/
theorem events_perform (script : Script) (a : Attempt) (pending : Pending) :
    ∀ event ∈ (perform script a pending).events, ∃ result, event = ended result := by
  intro event mem
  cases pending with
  | read handshake => exact ⟨_, List.mem_singleton.1 mem⟩
  | _ => cases mem

/-- The end of an operation sends nothing. -/
theorem not_written_perform (script : Script) (a : Attempt) (pending : Pending) (message : Bytes) :
    .write message ∉ (perform script a pending).events := by
  intro mem
  obtain ⟨_ | _ | _, eq⟩ := events_perform script a pending _ mem <;> cases eq

end ProxyRouting.Connection
