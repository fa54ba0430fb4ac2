import ProxyRouting.Connection.Script

/-!
# Running attempts over a script

Attempts run side by side on one network. Each has one operation pending, and operations
come to their end one at a time in the order in which they were started. A trace holds
what was asked of the network and how the attempts ended, in the order of time.

Every operation makes the script and the work that remains smaller, so each run ends.
-/

namespace ProxyRouting.Connection

/-- What a network sees. -/
inductive Event where
  /-- A resolution is started. -/
  | resolve (host : Bytes) (port : UInt16)
  /-- A connect is started. -/
  | connect
  /-- The sending of a message is started. -/
  | write (message : Bytes)
  /-- So many bytes were read. -/
  | read (count : Nat)
  /-- A read failed. -/
  | readFault
  /-- A read met the end of the stream. -/
  | readEnd
  deriving DecidableEq, Repr

/-- What is seen when an operation is started. A read is seen only when it has ended. -/
def started (a : Attempt) : Pending → List Event
  | .resolve => [.resolve a.via.host a.via.port]
  | .connect => [.connect]
  | .write message _ => [.write message]
  | .read _ => []

/-- What is seen when a read has ended. -/
def ended : Except Bytes (Option Bytes) → Event
  | .error _ => .readFault
  | .ok none => .readEnd
  | .ok (some bytes) => .read bytes.length

/-- What a pending operation comes to. -/
structure Step where
  /-- What follows. -/
  progress : Progress
  /-- What is seen of its end. -/
  events : List Event
  /-- The script after it. -/
  script : Script
  deriving DecidableEq, Repr

/-- Brings a pending operation to its end. -/
def perform (script : Script) (a : Attempt) : Pending → Step
  | .resolve => ⟨Attempt.resolved script.resolve, [], script⟩
  | .connect => ⟨a.connected script.connect, [], script⟩
  | .write _ handshake => ⟨Attempt.written handshake script.write.1, [], script.write.2⟩
  | .read handshake =>
    ⟨Attempt.received handshake script.read.1, [ended script.read.1], script.read.2⟩

/-- An operation leaves less to do. -/
theorem remaining_perform (script : Script) (a : Attempt) (pending : Pending) :
    (perform script a pending).script.size + (perform script a pending).progress.remaining <
      script.size + pending.remaining := by
  cases pending with
  | resolve =>
    have := remaining_resolved script.resolve
    simp only [perform]
    omega
  | connect =>
    have := remaining_connected a script.connect
    simp only [perform]
    omega
  | write message handshake =>
    have := remaining_written message handshake script.write.1
    have := script.size_write
    simp only [perform]
    omega
  | read handshake =>
    have le := script.size_read_le
    have pos := (Pending.read handshake).remaining_pos
    simp only [perform]
    rcases h : script.read.1 with message | _ | bytes
    · simp only [Attempt.received, Progress.remaining]
      omega
    · simp only [Attempt.received, Progress.remaining]
      omega
    · have := remaining_received handshake bytes
      have := Script.size_read_of_ok h
      omega

/-- The events and ends of a run. -/
structure Trace where
  /-- What the network saw. -/
  events : List Event := []
  /-- The attempts that ended, with their ends. -/
  endings : List (Attempt × Ending) := []
  deriving DecidableEq, Repr

/-- The work that remains for the operations of a queue. -/
def remaining : List (Attempt × Pending) → Nat
  | [] => 0
  | (_, pending) :: rest => pending.remaining + remaining rest

theorem remaining_append (queue others : List (Attempt × Pending)) :
    remaining (queue ++ others) = remaining queue + remaining others := by
  induction queue with
  | nil => simp [remaining]
  | cons first rest ih =>
    rw [List.cons_append, remaining, remaining, ih]
    omega

/-- Brings the operations of a queue, and all that follow them, to their ends. -/
def run (script : Script) : List (Attempt × Pending) → Trace
  | [] => {}
  | (a, pending) :: rest =>
    match _step : perform script a pending with
    | ⟨.waiting next, events, script'⟩ =>
      let trace := run script' (rest ++ [(a, next)])
      { trace with events := events ++ started a next ++ trace.events }
    | ⟨.finished ending, events, script'⟩ =>
      let trace := run script' rest
      { events := events ++ trace.events, endings := (a, ending) :: trace.endings }
termination_by queue => script.size + remaining queue
decreasing_by
  · have := remaining_perform script a pending
    simp only [_step, Progress.remaining] at this
    rw [remaining_append, remaining, remaining, remaining]
    omega
  · have := remaining_perform script a pending
    simp only [_step, Progress.remaining] at this
    rw [remaining]
    omega

theorem run_cons_of_waiting {script script' : Script} {a : Attempt} {pending next : Pending}
    {events : List Event} (rest : List (Attempt × Pending))
    (h : perform script a pending = ⟨.waiting next, events, script'⟩) :
    run script ((a, pending) :: rest) =
      { run script' (rest ++ [(a, next)]) with
        events := events ++ started a next ++ (run script' (rest ++ [(a, next)])).events } := by
  rw [run]
  split
  · next h' =>
    rw [h] at h'
    cases h'
    rfl
  · next h' =>
    rw [h] at h'
    cases h'

theorem run_cons_of_finished {script script' : Script} {a : Attempt} {pending : Pending}
    {ending : Ending} {events : List Event} (rest : List (Attempt × Pending))
    (h : perform script a pending = ⟨.finished ending, events, script'⟩) :
    run script ((a, pending) :: rest) =
      { events := events ++ (run script' rest).events
        endings := (a, ending) :: (run script' rest).endings } := by
  rw [run]
  split
  · next h' =>
    rw [h] at h'
    cases h'
  · next h' =>
    rw [h] at h'
    cases h'
    rfl

/-- What is seen when attempts are started. -/
def startEvents (attempts : List Attempt) : List Event :=
  attempts.flatMap fun a => started a .resolve

/-- Starts attempts one after another and then runs them all. -/
def runAll (script : Script) (attempts : List Attempt) : Trace :=
  let trace := run script (attempts.map fun a => (a, .resolve))
  { trace with events := startEvents attempts ++ trace.events }

namespace Trace

/-- The lines about the attempts that succeeded. -/
def reports (trace : Trace) : Bytes :=
  (trace.endings.filter (·.2.isOpen)).flatMap fun (a, ending) => a.report ending

/-- The lines about the attempts that failed. -/
def complaints (trace : Trace) : Bytes :=
  (trace.endings.filter (!·.2.isOpen)).flatMap fun (a, ending) => a.report ending

/-- What was handed out for the attempts, in the order in which they ended. -/
def results (trace : Trace) : List Result := trace.endings.map fun (a, ending) => a.result ending

/-- Whether all attempts succeeded. -/
def allOpen (trace : Trace) : Bool := trace.endings.all (·.2.isOpen)

end Trace

end ProxyRouting.Connection
