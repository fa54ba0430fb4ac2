import Mathlib.Tactic.SplitIfs
import ProxyRouting.Proofs.Connection.Steps
import ProxyRouting.Proofs.Socks5.Acceptance

/-!
# A tunnel over a byte stream

The network hands the server's bytes over in pieces. An attempt at a tunnel writes what the
handshake emits, and feeds it what it reads. This comes to what pouring the whole stream
into the handshake comes to, if no write fails: the same messages are sent, and the attempt ends
as the handshake does, or because the stream ends while the handshake waits
(`follow_feed`).

How the stream is cut does not show in what is sent and in how the attempt ends, but for how many
of the bytes behind the negotiation have been read (`Closes.agree`).
-/

namespace ProxyRouting.Connection

open Socks5 (Handshake Outcome Verdict)

variable {a : Attempt} {h : Handshake} {script : Script} {stream : Bytes}

/-! ### Networks that hand over a stream -/

/-- What is there to be read are the bytes of the stream, cut in some way. -/
def Script.Feeds (script : Script) (stream : Bytes) : Prop :=
  ∃ chunks : List Bytes, script.arrivals = chunks.map .data ∧ chunks.flatten = stream

/-- The proxy is found and connected to, and the stream is there to be read. -/
structure Script.Delivers (script : Script) (stream : Bytes) : Prop where
  /-- The proxy's host is resolved. -/
  resolves : script.resolveFault = none
  /-- It has an address. -/
  hasEndpoint : 0 < script.endpoints
  /-- It is connected to. -/
  connects : script.connectFault = none
  /-- These bytes are there, and then the end of the stream. -/
  feeds : script.Feeds stream

/-- Some write fails, now or later, with a message. -/
def Script.MayFail (script : Script) (message : Bytes) : Prop :=
  ∃ position, script.writeFault = some (position, message)

/-- A write succeeds and changes nothing else, or it meets the fault that was foreseen. -/
theorem Script.write_cases (script : Script) :
    (∃ next, script.write = (.ok (), next) ∧ next.arrivals = script.arrivals ∧
        ∀ message, next.MayFail message → script.MayFail message) ∨
      ∃ message next, script.write = (.error message, next) ∧ script.MayFail message := by
  unfold write
  split
  · next message fault => exact Or.inr ⟨message, _, rfl, 1, fault⟩
  · next count message _ fault =>
    refine Or.inl ⟨_, rfl, rfl, ?_⟩
    rintro later ⟨position, same⟩
    cases same
    exact ⟨_, fault⟩
  · exact Or.inl ⟨_, rfl, rfl, fun _ fails => fails⟩

/-- A read takes the first bytes off the stream, or meets its end. -/
theorem Script.Feeds.read (feeds : script.Feeds stream) :
    (stream = [] ∧ script.read = (.ok none, script)) ∨
      ∃ bytes rest next, stream = bytes ++ rest ∧ script.read = (.ok (some bytes), next) ∧
        next.Feeds rest ∧ next.writeFault = script.writeFault := by
  obtain ⟨chunks, arrivals, rfl⟩ := feeds
  cases chunks with
  | nil =>
    refine Or.inl ⟨rfl, ?_⟩
    unfold Script.read
    rw [arrivals]
    rfl
  | cons chunk later =>
    unfold Script.read
    simp only [arrivals, List.map_cons]
    split_ifs with fits
    · exact Or.inr ⟨chunk, later.flatten, _, rfl, rfl, ⟨later, rfl, rfl⟩, rfl⟩
    · -- The bytes beyond the limit stay there as a chunk of their own.
      refine Or.inr ⟨chunk.take readSize, chunk.drop readSize ++ later.flatten, _, ?_, rfl,
        ⟨chunk.drop readSize :: later, rfl, rfl⟩, rfl⟩
      rw [List.flatten_cons, ← List.append_assoc, List.take_append_drop]

/-! ### What is seen of a run -/

/-- The message whose sending was started. -/
def Event.written? : Event → Option Bytes
  | .write message => some message
  | _ => none

/-- How many bytes an event tells to be read. -/
def Event.readCount : Event → Nat
  | .read count => count
  | _ => 0

/-- The messages that were sent, in order. -/
def Trace.written (trace : Trace) : List Bytes := trace.events.filterMap Event.written?

/-- How many bytes were read, of some events. -/
def readCountOf : List Event → Nat
  | [] => 0
  | event :: rest => event.readCount + readCountOf rest

/-- How many bytes were read. -/
def Trace.readCount (trace : Trace) : Nat := readCountOf trace.events

/-- Puts earlier events before a trace. -/
def Trace.after (earlier : List Event) (trace : Trace) : Trace :=
  { trace with events := earlier ++ trace.events }

theorem Trace.written_after (earlier : List Event) (trace : Trace) :
    (trace.after earlier).written = earlier.filterMap Event.written? ++ trace.written :=
  List.filterMap_append

theorem readCountOf_append (earlier later : List Event) :
    readCountOf (earlier ++ later) = readCountOf earlier + readCountOf later := by
  induction earlier with
  | nil => exact (Nat.zero_add _).symm
  | cons event rest ih => rw [List.cons_append, readCountOf, readCountOf, ih, Nat.add_assoc]

theorem Trace.readCount_after (earlier : List Event) (trace : Trace) :
    (trace.after earlier).readCount = readCountOf earlier + trace.readCount :=
  readCountOf_append earlier trace.events

theorem reports_of_endings {trace : Trace} {ending : Ending}
    (endings : trace.endings = [(a, ending)]) :
    trace.reports = if ending.isOpen then a.report ending else [] := by
  cases ending <;> simp [Trace.reports, endings, Ending.isOpen]

theorem complaints_of_endings {trace : Trace} {ending : Ending}
    (endings : trace.endings = [(a, ending)]) :
    trace.complaints = if ending.isOpen then [] else a.report ending := by
  cases ending <;> simp [Trace.complaints, endings, Ending.isOpen]

/-- The run of one attempt from what follows an operation. -/
def follow (script : Script) (a : Attempt) : Progress → Trace
  | .waiting pending => (run script [(a, pending)]).after (started a pending)
  | .finished ending => { endings := [(a, ending)] }

/-- An attempt that runs alone brings its operation to the end and goes on from there. -/
theorem run_singleton (script : Script) (a : Attempt) (pending : Pending) :
    run script [(a, pending)] =
      (follow (perform script a pending).script a (perform script a pending).progress).after
        (perform script a pending).events := by
  rcases performed : perform script a pending with ⟨next | ending, events, script'⟩
  · rw [run_cons_of_waiting [] performed]
    simp only [follow, Trace.after, List.nil_append, List.append_assoc]
  · rw [run_cons_of_finished [] performed, run]
    simp only [follow, Trace.after]

/-! ### The run beside the handshake -/

/-- How an attempt ends over a stream whose handshake comes to an outcome. The bytes `unread`
are left in the network. -/
inductive Closes : Outcome → Bytes → Ending → Prop
  /-- The tunnel is opened; of the bytes behind the negotiation some are not read. -/
  | opened (leftover unread : Bytes) :
      Closes (.done (leftover ++ unread)) unread (.opened leftover)
  /-- The handshake failed. -/
  | failed (error : Socks5.Error) (unread : Bytes) :
      Closes (.failed error) unread (.failed (.handshake error))
  /-- The stream ended while the handshake waited. -/
  | closed : Closes .needMore [] (.failed .closed)

/-- Two ways to end with the same outcome differ only in how much of what comes behind the
negotiation was read. -/
theorem Closes.agree {outcome : Outcome} {unread unread' : Bytes} {ending ending' : Ending}
    (closes : Closes outcome unread ending) (closes' : Closes outcome unread' ending') :
    ending = ending' ∨ ∃ leftover leftover', ending = .opened leftover ∧
      ending' = .opened leftover' ∧ (leftover <+: leftover' ∨ leftover' <+: leftover) := by
  cases closes with
  | opened leftover unread =>
    generalize all : leftover ++ unread = behind at closes'
    cases closes' with
    | opened leftover' unread' =>
      exact Or.inr ⟨leftover, leftover', rfl, rfl,
        List.prefix_or_prefix_of_prefix ⟨unread, all⟩ (List.prefix_append leftover' unread')⟩
  | failed error unread =>
    cases closes'
    exact Or.inl rfl
  | closed =>
    cases closes'
    exact Or.inl rfl

/-- A run over a stream comes to the verdict of the handshake. -/
structure Follows (a : Attempt) (stream : Bytes) (v : Verdict) (trace : Trace) : Prop where
  /-- The messages of the handshake are sent. -/
  written : trace.written = v.messages
  /-- The attempt ends as the handshake does, and what was not read is left. -/
  ends : ∃ unread ending, trace.endings = [(a, ending)] ∧ Closes v.outcome unread ending ∧
    trace.readCount + unread.length = stream.length

/-- A run ends with the fault of a write that was foreseen. -/
def WriteFails (script : Script) (a : Attempt) (trace : Trace) : Prop :=
  ∃ message, script.MayFail message ∧ trace.endings = [(a, .failed (.write message))]

/-- Before the run goes on, some messages are sent and the first bytes of the stream are read. -/
theorem Follows.after {v : Verdict} {trace : Trace} (follows : Follows a stream v trace)
    (earlier : List Event) (bytes : Bytes) (counted : readCountOf earlier = bytes.length) :
    Follows a (bytes ++ stream)
      { v with messages := earlier.filterMap Event.written? ++ v.messages }
      (trace.after earlier) := by
  obtain ⟨written, unread, ending, endings, closes, rest⟩ := follows
  refine ⟨?_, unread, ending, endings, closes, ?_⟩
  · rw [Trace.written_after, written]
  · rw [Trace.readCount_after, List.length_append, counted, ← rest, Nat.add_assoc]

/-- An attempt that has a message to send goes on when it is sent. -/
theorem run_write (message : Bytes) (waits : h.InNegotiation) (feeds : script.Feeds stream)
    (later : ∀ next : Script, next.Feeds stream → next.size = script.size →
      WriteFails next a (follow next a (.ofOutcome (h.feed []))) ∨
        Follows a stream (h.pour stream).verdict (follow next a (.ofOutcome (h.feed [])))) :
    WriteFails script a (run script [(a, .write message h)]) ∨
      Follows a stream (h.pour stream).verdict (run script [(a, .write message h)]) := by
  have size := script.size_write
  rw [run_singleton]
  simp only [perform]
  rcases script.write_cases with ⟨next, sent, arrivals, foreseen⟩ | ⟨fault, next, fails, foreseen⟩
  · rw [sent] at size
    rw [sent, written_of_inNegotiation waits]
    obtain ⟨chunks, is_chunks, flat⟩ := feeds
    rcases later next ⟨chunks, arrivals.trans is_chunks, flat⟩ size with ⟨fault, mayFail, endings⟩ |
      follows
    · exact Or.inl ⟨fault, foreseen fault mayFail, endings⟩
    · exact Or.inr follows
  · rw [fails]
    exact Or.inl ⟨fault, foreseen, rfl⟩

/-- **The run of an attempt is its handshake over the stream.** The attempt has fed some bytes
to a handshake that waits for an answer. From then on it does what pouring these bytes and all
that is still to be read into the handshake comes to, or a write fails. The induction is on the
work that remains. -/
theorem follow_feed {script : Script} {stream : Bytes} {h : Handshake} (waits : h.InNegotiation)
    (bytes : Bytes) (feeds : script.Feeds stream) :
    WriteFails script a (follow script a (.ofOutcome (h.feed bytes))) ∨
      Follows a stream (h.pour (bytes ++ stream)).verdict
        (follow script a (.ofOutcome (h.feed bytes))) := by
  rcases h.feed_cases bytes with fed | ⟨error, next, fed, isOver⟩ | ⟨message, next, fed, waits'⟩ |
    ⟨leftover, next, fed, established⟩
  · rw [Handshake.verdict_pour_append_of_needMore stream fed]
    have less := remaining_perform script a (.read (h.extend bytes))
    rcases feeds.read with ⟨rfl, ended_⟩ | ⟨more, rest, script', rfl, given, feeds', faults⟩
    · have still : (h.extend bytes).feed [] = (.needMore, h.extend bytes) := by
        rw [Handshake.feed_extend, List.append_nil, fed]
      rw [Handshake.verdict_pour_of_not_emit still rfl, fed, Progress.ofOutcome, follow,
        run_singleton]
      simp only [perform, ended_]
      exact Or.inr ⟨rfl, [], _, rfl, .closed, rfl⟩
    · simp only [perform, given, Attempt.received] at less
      have fewer : script'.size + (Progress.ofOutcome ((h.extend bytes).feed more)).remaining <
          script.size + (Progress.ofOutcome (h.feed bytes)).remaining := by
        rw [fed]
        exact less
      have later := follow_feed (waits.extend bytes) more feeds'
      rw [fed, Progress.ofOutcome, follow, run_singleton]
      simp only [perform, given, Attempt.received]
      rcases later with ⟨fault, ⟨position, foreseen⟩, endings⟩ | follows
      · exact Or.inl ⟨fault, ⟨position, faults.symm.trans foreseen⟩, endings⟩
      · exact Or.inr (follows.after [.read more.length] more rfl)
  · rw [Handshake.verdict_pour_append_of_failed stream fed isOver, fed]
    exact Or.inr ⟨rfl, stream, _, rfl, .failed error stream, Nat.zero_add _⟩
  · rw [Handshake.verdict_pour_append_of_emit stream fed]
    have less := remaining_written message next (.ok ())
    rw [written_of_inNegotiation waits'] at less
    have later (script' : Script) (feeds' : script'.Feeds stream)
        (size : script'.size = script.size) :
        WriteFails script' a (follow script' a (.ofOutcome (next.feed []))) ∨
          Follows a stream (next.pour stream).verdict
            (follow script' a (.ofOutcome (next.feed []))) := by
      have fewer : script'.size + (Progress.ofOutcome (next.feed [])).remaining <
          script.size + (Progress.ofOutcome (h.feed bytes)).remaining := by
        rw [fed, size]
        exact Nat.add_lt_add_left less _
      exact follow_feed waits' [] feeds'
    rw [fed, Progress.ofOutcome, follow]
    rcases run_write message waits' feeds later with fails | follows
    · exact Or.inl fails
    · exact Or.inr (follows.after [.write message] [] rfl)
  · rw [Handshake.verdict_pour_append_of_done stream fed established, fed]
    exact Or.inr ⟨rfl, stream, _, rfl, .opened leftover stream, Nat.zero_add _⟩
termination_by script.size + (Progress.ofOutcome (h.feed bytes)).remaining
decreasing_by
  · exact fewer
  · exact fewer

end ProxyRouting.Connection
