import ProxyRouting.Proofs.Connection.History
import ProxyRouting.Proofs.Socks5.Messages

/-!
# What a tunnel has exchanged so far

Between two operations of an attempt, what was sent and what was received are known from the stage
in which its handshake waits: the messages are those up to this stage, and the bytes read are the
server's answers to them and those held back (`Comes.account`).

So when the user and password are sent, they are the second message, and the server has asked for
them (`Comes.authentication`).
-/

namespace ProxyRouting.Connection

open Socks5 (Handshake Stage Moves Sent greeting version methodPassword)

variable {a : Attempt} {h : Handshake} {script : Script} {seen : List Event} {s : Situation}

/-! ### The bytes that are there -/

/-- The bytes of some arrivals that come before the first fault. -/
def streamOf : List Arrival → Bytes
  | [] => []
  | .fault _ :: _ => []
  | .data bytes :: rest => bytes ++ streamOf rest

/-- The bytes that are there to be read, up to the first fault. -/
def Script.stream (script : Script) : Bytes := streamOf script.arrivals

/-- A read takes the first bytes off the stream. -/
theorem Script.stream_of_read {bytes : Bytes} {next : Script}
    (given : script.read = (.ok (some bytes), next)) : script.stream = bytes ++ next.stream := by
  unfold Script.read at given
  split at given
  · cases given
  · cases given
  · next chunk rest arrivals =>
    rw [Script.stream, arrivals, streamOf]
    split_ifs at given
    · cases given
      rfl
    · cases given
      rw [Script.stream, streamOf, ← List.append_assoc, List.take_append_drop]

theorem Script.stream_write (script : Script) : script.write.2.stream = script.stream := by
  unfold Script.write
  split <;> rfl

/-! ### What feeding leads to -/

/-- A handshake that waits and is fed waits on, or it has an answer and a message to send. -/
theorem next_of_feed {stage : Stage} {held bytes : Bytes} {next : Pending}
    (phase : h.phase = .waiting stage held)
    (follows : Progress.ofOutcome (h.feed bytes) = .waiting next) :
    next = .read { h with phase := .waiting stage (held ++ bytes) } ∨
      ∃ answer message later rest, Moves h.credentials h.target stage answer message later ∧
        held ++ bytes = answer ++ rest ∧
        next = .write message { h with phase := .waiting later rest } := by
  simp only [Handshake.feed, phase] at follows
  rcases h.receive_moves stage (held ++ bytes) with eq | ⟨error, eq⟩ |
    ⟨answer, message, later, rest, moves, split, eq⟩ | ⟨-, rest, eq⟩
  · rw [eq] at follows
    cases follows
    exact Or.inl rfl
  · rw [eq] at follows
    cases follows
  · rw [eq] at follows
    cases follows
    exact Or.inr ⟨answer, message, later, rest, moves, split, rfl⟩
  · rw [eq] at follows
    cases follows

/-! ### The account of an attempt -/

/-- What an attempt has exchanged for its handshake: the messages up to a stage were sent, and
what was read are the answers to them and the bytes held back. -/
structure Negotiates (a : Attempt) (script : Script) (seen : List Event) (left : Script)
    (h : Handshake) (stage : Stage) (answered held : Bytes) : Prop where
  /-- The tunnel is for the target of the attempt. -/
  target : h.target = a.target
  /-- The user and password are those of the attempt. -/
  credentials : h.credentials = a.credentials
  /-- The handshake waits for an answer. -/
  phase : h.phase = .waiting stage held
  /-- The messages were sent. -/
  sent : Sent a.credentials a.target stage answered (seen.filterMap Event.written?)
  /-- The bytes come from the front of the stream. -/
  received : script.stream = answered ++ held ++ left.stream
  /-- As many were read. -/
  counted : readCountOf seen = (answered ++ held).length

/-- The handshake that an operation is for. -/
def Pending.handshake? : Pending → Option Handshake
  | .resolve => none
  | .connect => none
  | .write _ h => some h
  | .read h => some h

/-- What an attempt has exchanged before an operation: nothing as long as there is no handshake. -/
def Accounted (a : Attempt) (script : Script) (seen : List Event) (left : Script)
    (pending : Pending) : Prop :=
  match pending.handshake? with
  | none => left = script ∧ seen.filterMap Event.written? = [] ∧ readCountOf seen = 0
  | some h => ∃ stage answered held, Negotiates a script seen left h stage answered held

/-- Feeding what was read keeps the account. -/
theorem Negotiates.feed {left left' : Script} {stage : Stage} {answered held : Bytes}
    {next : Pending} (negotiates : Negotiates a script seen left h stage answered held)
    (bytes : Bytes) (events : List Event) (silent : events.filterMap Event.written? = [])
    (counts : readCountOf events = bytes.length) (read : left.stream = bytes ++ left'.stream)
    (follows : Progress.ofOutcome (h.feed bytes) = .waiting next) :
    Accounted a script (seen ++ (events ++ started a next)) left' next := by
  obtain ⟨target, credentials, phase, sent, received, counted⟩ := negotiates
  have received' : script.stream = answered ++ (held ++ bytes) ++ left'.stream := by
    rw [received, read]
    simp only [List.append_assoc]
  have counted' : readCountOf (seen ++ (events ++ started a next)) =
      (answered ++ (held ++ bytes)).length := by
    have nothing : readCountOf (started a next) = 0 := by cases next <;> rfl
    rw [readCountOf_append, readCountOf_append, counted, counts, nothing, Nat.add_zero,
      ← List.append_assoc, ← List.length_append]
  rcases next_of_feed phase follows with rfl | ⟨answer, message, later, rest, moves, split, rfl⟩
  · refine ⟨stage, answered, held ++ bytes, target, credentials, rfl, ?_, received', counted'⟩
    rw [List.filterMap_append, List.filterMap_append, silent]
    exact (List.append_nil _).symm ▸ sent
  · rw [split, ← List.append_assoc] at received'
    refine ⟨later, answered ++ answer, rest, target, credentials, rfl, ?_, received', ?_⟩
    · rw [List.filterMap_append, List.filterMap_append, silent]
      rw [target, credentials] at moves
      exact sent.append moves
    · exact counted'.trans (by rw [split, List.append_assoc])

/-- **What an attempt has exchanged** is known in every situation it comes to. -/
theorem Comes.account (comes : Comes a script seen s) :
    Accounted a script seen s.script s.pending := by
  induction comes with
  | start => exact ⟨rfl, rfl, rfl⟩
  | @step seen events s t comes performed ih =>
    obtain ⟨left, pending⟩ := s
    obtain ⟨left', next⟩ := t
    rcases next_cases (ready_of_reaches comes.reaches) performed with
      ⟨rfl, rfl, rfl, rfl⟩ | ⟨rfl, -, rfl, rfl, rfl⟩ |
      ⟨message, h, rfl, written, rfl, follows⟩ | ⟨h, bytes, rfl, given, rfl, follows⟩
    · obtain ⟨rfl, sent, counted⟩ := ih
      refine ⟨rfl, ?_, ?_⟩
      · rw [List.filterMap_append, sent]
        rfl
      · rw [readCountOf_append, counted]
        rfl
    · obtain ⟨rfl, sent, counted⟩ := ih
      refine ⟨.greeting, [], [], rfl, rfl, rfl, ?_, rfl, ?_⟩
      · rw [List.filterMap_append, sent]
        exact .greeted
      · rw [readCountOf_append, counted]
        rfl
    · obtain ⟨stage, answered, held, negotiates⟩ := ih
      have stays := left.stream_write
      rw [written] at stays
      exact negotiates.feed [] [] rfl rfl stays.symm follows
    · obtain ⟨stage, answered, held, negotiates⟩ := ih
      exact negotiates.feed bytes [.read bytes.length] rfl rfl
        (Script.stream_of_read given) follows

/-! ### When the user and password are sent -/

/-- Each message seen is that of an operation which the attempt came to. -/
theorem Comes.exists_of_written {message : Bytes} (comes : Comes a script seen s)
    (mem : .write message ∈ seen) :
    ∃ before after left h, seen = before ++ .write message :: after ∧
      Comes a script (before ++ [.write message]) ⟨left, .write message h⟩ := by
  induction comes with
  | start => simp [started] at mem
  | @step seen events s t comes performed ih =>
    rcases List.mem_append.1 mem with earlier | new
    · obtain ⟨before, after, left, h, rfl, came⟩ := ih earlier
      exact ⟨before, after ++ (events ++ started a t.pending), left, h, by simp, came⟩
    · have notEnded := not_written_perform s.script a s.pending message
      rw [performed] at notEnded
      have isStarted := (List.mem_append.1 new).resolve_left notEnded
      have later := comes.step performed
      obtain ⟨left, pending⟩ := t
      cases pending with
      | write _ h =>
        cases List.mem_singleton.1 isStarted
        refine ⟨seen ++ events, [], left, h, by simp [started], ?_⟩
        rw [List.append_assoc]
        exact later
      | _ => simp [started] at isStarted

/-- A message about the authentication is started behind the greeting alone, and after the first
bytes that were read have asked for it. -/
theorem Comes.asked {before : List Event} {message : Bytes} {left : Script}
    (comes : Comes a script (before ++ [.write message]) ⟨left, .write message h⟩)
    (about : message.head? = some Socks5.authenticationVersion) :
    before.filterMap Event.written? = [greeting a.credentials.isSome] ∧
      [version, methodPassword] <+: script.stream.take (readCountOf before) := by
  obtain ⟨stage, answered, held, negotiates⟩ := comes.account
  obtain ⟨-, -, -, sent, received, counted⟩ := negotiates
  rw [List.filterMap_append] at sent
  obtain ⟨earlier, rfl⟩ := sent.of_last about
  have counted' : readCountOf before = ([version, methodPassword] ++ held).length := by
    rw [← counted, readCountOf_append]
    rfl
  refine ⟨earlier, held, ?_⟩
  rw [received, counted', List.take_left]

/-- The messages of an attempt are those of its handshake up to some stage. -/
theorem Comes.sent (comes : Comes a script seen s) :
    seen.filterMap Event.written? = [] ∨ ∃ stage answered,
      Sent a.credentials a.target stage answered (seen.filterMap Event.written?) := by
  have account := comes.account
  unfold Accounted at account
  split at account
  · exact Or.inl account.2.1
  · obtain ⟨stage, answered, _, negotiates⟩ := account
    exact Or.inr ⟨stage, answered, negotiates.sent⟩

/-- **The user and password are the second message**, and are sent when the server has asked for
them with the first bytes that were read. What is sent behind them is about the tunnel. -/
theorem Comes.authentication {message : Bytes} (comes : Comes a script seen s)
    (mem : .write message ∈ seen) (about : message.head? = some Socks5.authenticationVersion) :
    ∃ before after, seen = before ++ .write message :: after ∧
      before.filterMap Event.written? = [greeting a.credentials.isSome] ∧
      [version, methodPassword] <+: script.stream.take (readCountOf before) ∧
      ∀ other, .write other ∈ after → other.head? = some version := by
  obtain ⟨before, after, left, h, rfl, asks⟩ := comes.exists_of_written mem
  obtain ⟨first, asked⟩ := asks.asked about
  refine ⟨before, after, rfl, first, asked, fun other behind => ?_⟩
  have sent := comes.sent
  rw [List.filterMap_append, first] at sent
  rcases sent with nothing | ⟨stage, answered, sent⟩
  · cases nothing
  · exact sent.head?_of_behind about other (List.mem_filterMap.2 ⟨_, behind, rfl⟩)

end ProxyRouting.Connection
