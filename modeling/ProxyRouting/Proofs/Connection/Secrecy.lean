import ProxyRouting.Proofs.Connection.Exchange

/-!
# Users and passwords stay secret

Two attempts differ only in the user and password that they are entrusted with. Over the same
network they do the same, step by step: the operations of the one are those of the other, with the
one authentication request in the place of the other (`Comes.entrust`). So nothing else tells the
user and password, neither an error nor a report, and the request is sent only to a server that
has asked for it (`credentials_only_where_asked`).
-/

namespace ProxyRouting

/-- The user and password fit their length bytes. -/
structure Credentials.Fits (c : Credentials) : Prop where
  /-- The user. -/
  username : c.username.length ≤ Socks5.maxFieldLength
  /-- The password. -/
  password : c.password.length ≤ Socks5.maxFieldLength

namespace Socks5

variable {c d : Credentials}

/-! ### The same message for another user -/

/-- A message, with the authentication request of `d` in the place of that of `c`. -/
def swapRequest (c d : Credentials) (message : Bytes) : Bytes :=
  if message = authenticationRequest c then authenticationRequest d else message

theorem swapRequest_authenticationRequest :
    swapRequest c d (authenticationRequest c) = authenticationRequest d := if_pos rfl

/-- A message about the tunnel is for every user the same. -/
theorem swapRequest_of_head? {message : Bytes} (tunnel : message.head? = some version) :
    swapRequest c d message = message :=
  if_neg (ne_of_head? rfl tunnel).symm

/-- An outcome, with the authentication request of `d` in the place of that of `c`. -/
def Outcome.swap (c d : Credentials) : Outcome → Outcome
  | .emit message => .emit (swapRequest c d message)
  | outcome => outcome

namespace Handshake

/-- The handshake with the user and password. -/
def entrust (h : Handshake) (d : Credentials) : Handshake := { h with credentials := some d }

@[simp] theorem entrust_target (h : Handshake) (d : Credentials) :
    (h.entrust d).target = h.target := rfl

@[simp] theorem entrust_phase (h : Handshake) (d : Credentials) :
    (h.entrust d).phase = h.phase := rfl

@[simp] theorem entrust_buffered (h : Handshake) (d : Credentials) :
    (h.entrust d).buffered = h.buffered := rfl

/-- What a call comes to, for `d` in the place of `c`. -/
def swapAnswer (c d : Credentials) (answer : Outcome × Handshake) : Outcome × Handshake :=
  (answer.1.swap c d, answer.2.entrust d)

variable {h : Handshake}

theorem entrust_emitConnect (rest : Bytes) :
    (h.entrust d).emitConnect rest = swapAnswer c d (h.emitConnect rest) := by
  unfold emitConnect
  rw [entrust_target]
  cases encodes : connectRequest? h.target with
  | none => rfl
  | some request =>
    simp only [emit, swapAnswer, Outcome.swap,
      swapRequest_of_head? (head?_of_connectRequest? encodes)]
    rfl

/-- **The bytes of an answer lead to the same**, but for the authentication request. -/
theorem entrust_receive (has : h.credentials = some c) (stage : Stage) (bytes : Bytes) :
    (h.entrust d).receive stage bytes = swapAnswer c d (h.receive stage bytes) := by
  cases stage with
  | greeting =>
    simp only [receive, receiveMethod]
    rcases scanMethod bytes with _ | error | ⟨_ | _, rest⟩
    · rfl
    · rfl
    · exact entrust_emitConnect rest
    · simp only [has, entrust, emit, swapAnswer, Outcome.swap, swapRequest_authenticationRequest]
  | authenticating =>
    simp only [receive, receiveVerdict]
    rcases scanAuthentication bytes with _ | error | ⟨_, rest⟩
    · rfl
    · rfl
    · exact entrust_emitConnect rest
  | connecting =>
    simp only [receive, receiveReply, entrust_target]
    rcases scanConnect h.target bytes with _ | error | ⟨_, rest⟩ <;> rfl

theorem entrust_feed (has : h.credentials = some c) (bytes : Bytes) :
    (h.entrust d).feed bytes = swapAnswer c d (h.feed bytes) := by
  obtain ⟨target, credentials, phase⟩ := h
  cases phase with
  | waiting stage held => exact entrust_receive has stage (held ++ bytes)
  | _ => rfl

theorem credentialsFit_of_fits (has : h.credentials = some c) (fits : c.Fits) :
    h.credentialsFit = true := by
  refine credentialsFit_iff.2 fun c' has' => ?_
  cases has.symm.trans has'
  exact ⟨fits.username, fits.password⟩

theorem entrust_start (has : h.credentials = some c) (fits : c.Fits) (fits' : d.Fits) :
    (h.entrust d).start = swapAnswer c d h.start := by
  have enough : h.credentialsFit = true := credentialsFit_of_fits has fits
  have enough' : (h.entrust d).credentialsFit = true := credentialsFit_of_fits rfl fits'
  have greets : swapRequest c d (greeting h.credentials.isSome) = greeting h.credentials.isSome :=
    swapRequest_of_head? (head?_greeting _)
  have offers : (h.entrust d).credentials.isSome = h.credentials.isSome := by rw [has]; rfl
  unfold start
  rw [enough, enough', offers, entrust_phase, entrust_target]
  cases h.phase with
  | idle =>
    cases connectRequest? h.target with
    | none => rfl
    | some request =>
      simp only [Bool.not_true, Bool.false_eq_true, if_false, emit, swapAnswer, Outcome.swap,
        greets]
      rfl
  | _ => rfl

end Handshake

end Socks5

namespace Connection

open Socks5 (Handshake greeting authenticationRequest swapRequest version methodPassword)

variable {a : Attempt} {c d : Credentials} {h : Handshake} {script : Script} {seen : List Event}
  {s : Situation}

/-! ### The same attempt for another user -/

/-- The attempt with the user and password. -/
def Attempt.entrust (a : Attempt) (d : Credentials) : Attempt := { a with credentials := some d }

@[simp] theorem Attempt.entrust_via (a : Attempt) (d : Credentials) :
    (a.entrust d).via = a.via := rfl

/-- An event, with the authentication request of `d` in the place of that of `c`. -/
def Event.swap (c d : Credentials) : Event → Event
  | .write message => .write (swapRequest c d message)
  | event => event

/-- An operation, for `d` in the place of `c`. -/
def Pending.swap (c d : Credentials) : Pending → Pending
  | .resolve => .resolve
  | .connect => .connect
  | .write message h => .write (swapRequest c d message) (h.entrust d)
  | .read h => .read (h.entrust d)

/-- What follows an operation, for `d` in the place of `c`. -/
def Progress.swap (c d : Credentials) : Progress → Progress
  | .waiting pending => .waiting (pending.swap c d)
  | .finished ending => .finished ending

theorem ofOutcome_swapAnswer (answer : Socks5.Outcome × Handshake) :
    Progress.ofOutcome (Handshake.swapAnswer c d answer) =
      (Progress.ofOutcome answer).swap c d := by
  obtain ⟨outcome, h⟩ := answer
  cases outcome <;> rfl

theorem entrust_connected (has : a.credentials = some c) (fits : c.Fits) (fits' : d.Fits)
    (result : Except Bytes Unit) :
    (a.entrust d).connected result = (a.connected result).swap c d := by
  cases result with
  | error message => rfl
  | ok _ =>
    have start : (a.entrust d).handshake.start = Handshake.swapAnswer c d a.handshake.start :=
      Handshake.entrust_start (h := a.handshake) has fits fits'
    simp only [Attempt.connected, start, ofOutcome_swapAnswer]
    rw [Attempt.entrust_via]
    split_ifs <;> rfl

theorem entrust_written (has : h.credentials = some c) (result : Except Bytes Unit) :
    Attempt.written (h.entrust d) result = (Attempt.written h result).swap c d := by
  cases result with
  | error message => rfl
  | ok _ =>
    simp only [Attempt.written, Handshake.entrust_feed has, ofOutcome_swapAnswer]
    rw [Handshake.entrust_buffered]
    split_ifs <;> rfl

theorem entrust_received (has : h.credentials = some c) (result : Except Bytes (Option Bytes)) :
    Attempt.received (h.entrust d) result = (Attempt.received h result).swap c d := by
  rcases result with message | _ | bytes
  · rfl
  · rfl
  · simp only [Attempt.received, Handshake.entrust_feed has, ofOutcome_swapAnswer]

/-- **An operation comes to the same** for another user. -/
theorem perform_swap (has : a.credentials = some c) (fits : c.Fits) (fits' : d.Fits)
    (script : Script) {pending : Pending}
    (trusts : ∀ h, pending.handshake? = some h → h.credentials = some c) :
    perform script (a.entrust d) (pending.swap c d) =
      { perform script a pending with
        progress := (perform script a pending).progress.swap c d } := by
  cases pending with
  | resolve =>
    simp only [perform, Pending.swap]
    rcases script.resolve with message | _ | count <;> rfl
  | connect => simp only [perform, Pending.swap, entrust_connected has fits fits']
  | write message h => simp only [perform, Pending.swap, entrust_written (trusts h rfl)]
  | read h => simp only [perform, Pending.swap, entrust_received (trusts h rfl)]

theorem started_swap (pending : Pending) :
    started (a.entrust d) (pending.swap c d) = (started a pending).map (Event.swap c d) := by
  cases pending <;> rfl

/-- The handshake of an attempt has its user and password. -/
theorem Comes.trusts (has : a.credentials = some c) (comes : Comes a script seen s) :
    ∀ h, s.pending.handshake? = some h → h.credentials = some c := by
  intro h handshake
  have account := comes.account
  rw [Accounted, handshake] at account
  obtain ⟨_, _, _, negotiates⟩ := account
  exact negotiates.credentials.trans has

/-- Where the authentication request is not sent, nothing tells the user. -/
theorem map_swap_eq_self {events : List Event}
    (other : ∀ message, .write message ∈ events → message ≠ authenticationRequest c) :
    events.map (Event.swap c d) = events := by
  refine (List.map_congr_left fun event mem => ?_).trans (List.map_id events)
  cases event with
  | write message => exact congrArg Event.write (if_neg (other message mem))
  | _ => rfl

theorem map_swap_perform (script : Script) (a : Attempt) (pending : Pending) :
    (perform script a pending).events.map (Event.swap c d) =
      (perform script a pending).events :=
  map_swap_eq_self fun message mem => absurd mem (not_written_perform script a pending message)

/-- **The same attempt for another user comes the same way.** -/
theorem Comes.entrust (has : a.credentials = some c) (fits : c.Fits) (fits' : d.Fits)
    (comes : Comes a script seen s) :
    Comes (a.entrust d) script (seen.map (Event.swap c d)) ⟨s.script, s.pending.swap c d⟩ := by
  induction comes with
  | start => exact .start
  | @step seen events s t comes performed ih =>
    have silent := map_swap_perform (c := c) (d := d) s.script a s.pending
    have performed' := perform_swap has fits fits' s.script (comes.trusts has)
    rw [performed] at silent performed'
    have later := Comes.step (t := ⟨t.script, t.pending.swap c d⟩) ih performed'
    rw [List.map_append, List.map_append, silent, ← started_swap]
    exact later

/-- Over the same network the same attempt for another user has the same result and the same
reports. What is seen has the one authentication request in the place of the other. -/
theorem runAll_entrust (has : a.credentials = some c) (fits : c.Fits) (fits' : d.Fits)
    (script : Script) :
    (runAll script [a.entrust d]).results = (runAll script [a]).results ∧
      (runAll script [a.entrust d]).reports = (runAll script [a]).reports ∧
      (runAll script [a.entrust d]).complaints = (runAll script [a]).complaints ∧
      (runAll script [a.entrust d]).events = (runAll script [a]).events.map (Event.swap c d) := by
  obtain ⟨seen, s, ending, last, script', comes, finished, whole⟩ := exists_last a script
  have silent := map_swap_perform (c := c) (d := d) s.script a s.pending
  have finished' := perform_swap has fits fits' s.script (comes.trusts has)
  rw [finished] at silent finished'
  -- Both runs have the same ending, and it is reported without the user and password.
  have whole' := (comes.entrust has fits fits').runAll_of_finished finished'
  rw [whole, whole', List.map_append, silent]
  refine ⟨rfl, ?_, ?_, rfl⟩
  · rw [reports_of_endings rfl, reports_of_endings rfl]
    rfl
  · rw [complaints_of_endings rfl, complaints_of_endings rfl]
    rfl

/-- The authentication request is sent once at most: as the second message, and after the first
bytes that were read have asked for it. -/
theorem authentication_in_run (has : a.credentials = some c) (script : Script) :
    (∀ message, .write message ∈ (runAll script [a]).events →
        message ≠ authenticationRequest c) ∨
      ∃ before after,
        (runAll script [a]).events = before ++ .write (authenticationRequest c) :: after ∧
        before.filterMap Event.written? = [greeting true] ∧
        [version, methodPassword] <+: script.stream.take (readCountOf before) ∧
        ∀ message, .write message ∈ after → message ≠ authenticationRequest c := by
  obtain ⟨seen, s, ending, last, script', comes, finished, whole⟩ := exists_last a script
  have silent := not_written_perform s.script a s.pending
  rw [finished] at silent
  rw [whole]
  by_cases mem : .write (authenticationRequest c) ∈ seen
  · obtain ⟨before, after, rfl, first, asked, tunnel⟩ := comes.authentication mem rfl
    rw [has] at first
    refine Or.inr ⟨before, after ++ last, by simp, first, asked, fun message sent => ?_⟩
    have behind := (List.mem_append.1 sent).resolve_right (silent message)
    exact (Socks5.ne_of_head? rfl (tunnel message behind)).symm
  · refine Or.inl fun message sent => ?_
    rintro rfl
    exact mem ((List.mem_append.1 sent).resolve_right (silent _))

/-! ### Main statement -/

/-- **The user and password reach the wire only where they were asked for.** Two attempts that
differ only in a user and a password, each of which fits its length byte, have the same result and
the same reports over every network. What the network sees of them is the same too, but for one
message at most: the authentication request, which is the second message, and is sent after the
server has asked for it with the first bytes that were read. -/
theorem credentials_only_where_asked (proxy : Bytes) (via : Address) (target : HostPort)
    {c d : Credentials} (fits : c.Fits) (fits' : d.Fits) (script : Script) :
    let one := runAll script [⟨proxy, via, target, some c⟩]
    let other := runAll script [⟨proxy, via, target, some d⟩]
    one.results = other.results ∧ one.reports = other.reports ∧
      one.complaints = other.complaints ∧
      (one.events = other.events ∨ ∃ before after,
        one.events = before ++ .write (authenticationRequest c) :: after ∧
        other.events = before ++ .write (authenticationRequest d) :: after ∧
        before.filterMap Event.written? = [greeting true] ∧
        [version, methodPassword] <+: script.stream.take (readCountOf before)) := by
  intro one other
  have has : (⟨proxy, via, target, some c⟩ : Attempt).credentials = some c := rfl
  obtain ⟨results, reports, complaints, events⟩ := runAll_entrust has fits fits' script
  refine ⟨results.symm, reports.symm, complaints.symm, ?_⟩
  rcases authentication_in_run has script with never | ⟨before, after, sent, first, asked, once⟩
  · rw [map_swap_eq_self never] at events
    exact Or.inl events.symm
  · have earlier : before.map (Event.swap c d) = before := by
      refine map_swap_eq_self fun message mem => ?_
      have greets : message ∈ before.filterMap Event.written? := List.mem_filterMap.2 ⟨_, mem, rfl⟩
      rw [first, List.mem_singleton] at greets
      rw [greets]
      exact (Socks5.ne_of_head? rfl (Socks5.head?_greeting true)).symm
    rw [sent, List.map_append, List.map_cons, earlier, map_swap_eq_self once] at events
    refine Or.inr ⟨before, after, sent, events.trans ?_, first, asked⟩
    rw [Event.swap, Socks5.swapRequest_authenticationRequest]

/-- A server asks for the user and password and refuses them. -/
theorem credentials_refused_alike :
    let trace := fun c => runAll { arrivals := [.data [5, 2, 1], .data [1]] }
      [⟨ascii "p", ⟨Scheme.socks5, ascii "10.0.0.2", 1080⟩, ⟨ascii "10.0.0.1", 443⟩, some c⟩]
    let ann : Credentials := ⟨ascii "ann", ascii "secret"⟩
    let bob : Credentials := ⟨ascii "bob", []⟩
    (trace ann).complaints = (trace bob).complaints ∧ ∃ before after,
      (trace ann).events = before ++ .write (authenticationRequest ann) :: after ∧
      (trace bob).events = before ++ .write (authenticationRequest bob) :: after := by
  intro trace ann bob
  obtain ⟨-, -, complaints, same | ⟨before, after, sent, sent', -⟩⟩ :=
    credentials_only_where_asked (ascii "p") ⟨Scheme.socks5, ascii "10.0.0.2", 1080⟩
      ⟨ascii "10.0.0.1", 443⟩ (c := ann) (d := bob) ⟨by decide, by decide⟩ ⟨by decide, by decide⟩
      { arrivals := [.data [5, 2, 1], .data [1]] }
  · exact absurd same (by decide +kernel)
  · exact ⟨complaints, before, after, sent, sent'⟩

end Connection

end ProxyRouting
