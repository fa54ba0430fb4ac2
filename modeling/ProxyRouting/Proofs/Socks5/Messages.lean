import Mathlib.Data.List.Induction
import ProxyRouting.Proofs.Socks5.Dialogue
import ProxyRouting.Proofs.Socks5.Requests
import ProxyRouting.Proofs.Socks5.Steps

/-!
# What a handshake sends

Whatever is called, and in whatever order, a handshake sends a greeting, then the user and
password if the server asks for them, and then the CONNECT request; it may stop before any of
these. How far it has come is told by the stage in which it waits: `Sent` are the messages up to
each stage and the answers to them.

`Account` relates how a handshake stands to all calls before. It holds at the beginning and is
kept by each call (`Account.step`), so it holds after all calls (`account_of_run`). From it follows
what is sent, and when (`sends_in_order`).
-/

namespace ProxyRouting.Socks5

/-! ### Messages by stage -/

/-- The messages sent until a handshake waits in a stage, and the answers to those before the
last one. -/
inductive Sent (credentials : Option Credentials) (target : HostPort) :
    Stage → Bytes → List Bytes → Prop
  /-- The greeting. -/
  | greeted : Sent credentials target .greeting [] [greeting credentials.isSome]
  /-- The user and password, which were asked for. -/
  | authenticating {c : Credentials} : credentials = some c →
      Sent credentials target .authenticating [version, methodPassword]
        [greeting credentials.isSome, authenticationRequest c]
  /-- The CONNECT request without authentication. -/
  | plain {request : Bytes} : connectRequest? target = some request →
      Sent credentials target .connecting [version, methodNone]
        [greeting credentials.isSome, request]
  /-- The CONNECT request after the user and password were accepted. -/
  | password {c : Credentials} {request : Bytes} : credentials = some c →
      connectRequest? target = some request →
      Sent credentials target .connecting
        [version, methodPassword, Socks5.authenticationVersion, 0]
        [greeting credentials.isSome, authenticationRequest c, request]

namespace Sent

variable {credentials : Option Credentials} {target : HostPort} {stage next : Stage}
  {answered answer message : Bytes} {sent : List Bytes}

/-- A good answer adds one message. -/
theorem append (isSent : Sent credentials target stage answered sent)
    (moves : Moves credentials target stage answer message next) :
    Sent credentials target next (answered ++ answer) (sent ++ [message]) := by
  cases moves with
  | plain encodes =>
    cases isSent
    exact .plain encodes
  | password has =>
    cases isSent
    exact .authenticating has
  | accepted encodes =>
    cases isSent with
    | authenticating has => exact .password has encodes

/-- What was sent is a beginning of the messages without or with authentication. -/
theorem isPrefix {request : Bytes} (isSent : Sent credentials target stage answered sent)
    (encodes : connectRequest? target = some request) :
    sent <+: [greeting credentials.isSome, request] ∨
      ∃ c, credentials = some c ∧
        sent <+: [greeting credentials.isSome, authenticationRequest c, request] := by
  cases isSent with
  | greeted => exact Or.inl ⟨[request], rfl⟩
  | authenticating has => exact Or.inr ⟨_, has, [request], rfl⟩
  | plain encodes' =>
    cases encodes.symm.trans encodes'
    exact Or.inl List.prefix_rfl
  | password has encodes' =>
    cases encodes.symm.trans encodes'
    exact Or.inr ⟨_, has, List.prefix_rfl⟩

theorem head? (isSent : Sent credentials target stage answered sent) :
    sent.head? = some (greeting credentials.isSome) := by
  cases isSent <;> rfl

/-- A message about the authentication tells the user and the password, and these were asked
for. -/
theorem authentication_of_mem (isSent : Sent credentials target stage answered sent)
    (mem : message ∈ sent) (about : message.head? = some Socks5.authenticationVersion) :
    ∃ c, credentials = some c ∧ message = authenticationRequest c ∧
      [version, methodPassword] <+: answered := by
  have notGreeting := ne_of_head? about (head?_greeting credentials.isSome)
  cases isSent with
  | greeted => exact absurd (List.mem_singleton.1 mem) notGreeting
  | authenticating has =>
    refine ⟨_, has, ?_, List.prefix_rfl⟩
    simpa [notGreeting] using mem
  | plain encodes =>
    have notRequest := ne_of_head? about (head?_of_connectRequest? encodes)
    simp [notGreeting, notRequest] at mem
  | password has encodes =>
    have notRequest := ne_of_head? about (head?_of_connectRequest? encodes)
    refine ⟨_, has, ?_, [Socks5.authenticationVersion, 0], rfl⟩
    simpa [notGreeting, notRequest] using mem

/-- When the last message is about the authentication, the greeting was sent before it, and the
answer asks for it. -/
theorem of_last (isSent : Sent credentials target stage answered (sent ++ [message]))
    (about : message.head? = some Socks5.authenticationVersion) :
    sent = [greeting credentials.isSome] ∧ answered = [version, methodPassword] := by
  generalize all : sent ++ [message] = messages at isSent
  have last : messages.getLast? = some message := by rw [← all, List.getLast?_concat]
  have earlier : messages.dropLast = sent := by rw [← all, List.dropLast_concat]
  cases isSent with
  | greeted =>
    cases last
    exact absurd rfl (ne_of_head? about (head?_greeting credentials.isSome))
  | authenticating has => exact ⟨earlier.symm, rfl⟩
  | plain encodes =>
    cases last
    exact absurd rfl (ne_of_head? about (head?_of_connectRequest? encodes))
  | password has encodes =>
    cases last
    exact absurd rfl (ne_of_head? about (head?_of_connectRequest? encodes))

/-- Behind a message about the authentication only one about the tunnel is sent. -/
theorem head?_of_behind {first : Bytes} {later : List Bytes}
    (isSent : Sent credentials target stage answered (first :: message :: later))
    (about : message.head? = some Socks5.authenticationVersion) :
    ∀ other ∈ later, other.head? = some version := by
  cases isSent with
  | authenticating has => exact fun _ mem => absurd mem List.not_mem_nil
  | plain encodes => exact absurd rfl (ne_of_head? about (head?_of_connectRequest? encodes))
  | password has encodes =>
    intro other mem
    rw [List.mem_singleton.1 mem]
    exact head?_of_connectRequest? encodes

/-- The CONNECT request is sent before the answer to it is waited for. -/
theorem request_mem (isSent : Sent credentials target .connecting answered sent) :
    ∃ request, connectRequest? target = some request ∧ request ∈ sent := by
  cases isSent with
  | plain encodes => exact ⟨_, encodes, by simp⟩
  | password _ encodes => exact ⟨_, encodes, by simp⟩

end Sent

/-! ### Calls and their outcomes -/

/-- The bytes that a call hands over. -/
def Call.bytes : Call → Bytes
  | .start => []
  | .feed bytes => bytes

/-- The bytes that some calls hand over. -/
def fedBy (calls : List Call) : Bytes := calls.flatMap Call.bytes

/-- The messages to be sent after some calls. -/
def messagesIn (outcomes : List Outcome) : List Bytes := outcomes.filterMap Outcome.message?

/-- Whether a call has opened the tunnel. -/
def Outcome.isDone : Outcome → Bool
  | .done _ => true
  | _ => false

theorem Outcome.isFinal_of_isDone {outcome : Outcome} (done : outcome.isDone = true) :
    outcome.isFinal = true := by
  cases outcome with
  | done leftover => rfl
  | _ => cases done

theorem fedBy_append (earlier later : List Call) :
    fedBy (earlier ++ later) = fedBy earlier ++ fedBy later := List.flatMap_append

theorem messagesIn_append (earlier later : List Outcome) :
    messagesIn (earlier ++ later) = messagesIn earlier ++ messagesIn later :=
  List.filterMap_append

namespace Handshake

variable {h : Handshake} {calls : List Call} {sent : List Bytes}

theorem run_append (earlier later : List Call) :
    h.run (earlier ++ later) = (h.run earlier).run later := List.foldl_append

theorem outcomes_append (earlier later : List Call) :
    h.outcomes (earlier ++ later) = h.outcomes earlier ++ (h.run earlier).outcomes later := by
  induction earlier generalizing h with
  | nil => rfl
  | cons call rest ih =>
    rw [List.cons_append, outcomes_cons, ih, outcomes_cons, run_cons, List.cons_append]

/-- Each outcome is that of a call after those that came before. -/
theorem exists_call_of_outcomes {before after : List Outcome} {outcome : Outcome}
    (told : h.outcomes calls = before ++ outcome :: after) :
    ∃ earlier call later, calls = earlier ++ call :: later ∧ earlier.length = before.length ∧
      h.outcomes earlier = before ∧ ((h.run earlier).answer call).1 = outcome ∧
      ((h.run earlier).answer call).2.outcomes later = after := by
  induction calls generalizing h before with
  | nil => cases before <;> cases told
  | cons call rest ih =>
    rw [outcomes_cons] at told
    cases before with
    | nil =>
      obtain ⟨first, others⟩ := List.cons.inj told
      exact ⟨[], call, rest, rfl, rfl, rfl, first, others⟩
    | cons first before =>
      obtain ⟨rfl, others⟩ := List.cons.inj told
      obtain ⟨earlier, next, later, rfl, length, rfl, answered, behind⟩ := ih others
      exact ⟨call :: earlier, next, later, rfl, congrArg (· + 1) length, rfl, answered, behind⟩

/-- After a call that fails or opens the tunnel, every call is refused. -/
theorem refused_after {before after : List Outcome} {outcome : Outcome}
    (told : h.outcomes calls = before ++ outcome :: after) (ends : outcome.isFinal = true) :
    ∀ later ∈ after, ∃ error, later = .failed error := by
  obtain ⟨earlier, call, _, -, -, -, rfl, rfl⟩ := exists_call_of_outcomes told
  have isOver := ((h.run earlier).step_answer call).over ends
  exact fun later => isOver.refuses

/-- The tunnel is opened once at most. -/
theorem countP_isDone_le_one (h : Handshake) (calls : List Call) :
    (h.outcomes calls).countP Outcome.isDone ≤ 1 := by
  induction calls generalizing h with
  | nil => exact Nat.zero_le 1
  | cons call rest ih =>
    rw [outcomes_cons, List.countP_cons]
    split_ifs with done
    · -- Behind a call that has opened the tunnel there are only failures.
      have isOver := (h.step_answer call).over (Outcome.isFinal_of_isDone done)
      have none : ((h.answer call).2.outcomes rest).countP Outcome.isDone = 0 := by
        refine List.countP_eq_zero.2 fun later told => ?_
        obtain ⟨error, rfl⟩ := isOver.refuses told
        exact Bool.false_ne_true
      exact Nat.le_of_eq (congrArg (· + 1) none)
    · exact ih (h.answer call).2

/-! ### How a handshake stands -/

/-- How a handshake stands after some calls, and what was sent. -/
inductive Account (h : Handshake) : List Call → List Bytes → Prop
  /-- It was not called. -/
  | fresh : h.phase = .idle → Account h [] []
  /-- It was started and waits. The bytes fed are the answers so far and those held back. -/
  | waits {request answered held : Bytes} {stage : Stage} {later : List Call} {sent : List Bytes} :
      h.Equipped request → h.phase = .waiting stage held →
      Sent h.credentials h.target stage answered sent → fedBy later = answered ++ held →
      Account h (.start :: later) sent
  /-- It is over, and nothing was sent. -/
  | silent {calls : List Call} : h.Over → Account h calls []
  /-- It is over, and came to some stage before. -/
  | ended {request answered : Bytes} {stage : Stage} {later : List Call} {sent : List Bytes} :
      h.Equipped request → h.Over → Sent h.credentials h.target stage answered sent →
      answered <+: fedBy later → Account h (.start :: later) sent

/-- What was sent, if anything. -/
theorem Account.sent_cases (account : Account h calls sent) :
    sent = [] ∨ ∃ request stage answered later, h.Equipped request ∧ calls = .start :: later ∧
      answered <+: fedBy later ∧ Sent h.credentials h.target stage answered sent := by
  cases account with
  | fresh _ => exact Or.inl rfl
  | silent _ => exact Or.inl rfl
  | waits equipped _ isSent fed =>
    exact Or.inr ⟨_, _, _, _, equipped, rfl, ⟨_, fed.symm⟩, isSent⟩
  | ended equipped _ isSent begins => exact Or.inr ⟨_, _, _, _, equipped, rfl, begins, isSent⟩

/-- When the handshake is over after a further call, nothing more was sent. -/
theorem Account.over {next : Handshake} (account : Account h calls sent) (isOver : next.Over)
    (target : next.target = h.target) (credentials : next.credentials = h.credentials)
    (call : Call) : Account next (calls ++ [call]) sent := by
  rcases account.sent_cases with rfl | ⟨request, stage, answered, later, equipped, rfl, begins,
    isSent⟩
  · exact .silent isOver
  · have equips : next.Equipped request := by
      refine ⟨?_, target ▸ equipped.encodes⟩
      rw [credentialsFit, credentials]
      exact equipped.fits
    rw [← target, ← credentials] at isSent
    have still : fedBy later <+: fedBy (later ++ [call]) := by
      rw [fedBy_append]
      exact List.prefix_append _ _
    exact .ended equips isOver isSent (begins.trans still)

/-- A handshake that waits was started, and was fed the answers so far and what it holds back. -/
theorem Account.of_waiting {stage : Stage} {held : Bytes} (account : Account h calls sent)
    (phase : h.phase = .waiting stage held) :
    ∃ request answered later, calls = .start :: later ∧ h.Equipped request ∧
      Sent h.credentials h.target stage answered sent ∧
      ∀ bytes, fedBy (later ++ [.feed bytes]) = answered ++ (held ++ bytes) := by
  cases account with
  | fresh idle => cases idle.symm.trans phase
  | silent isOver => exact absurd phase (isOver.ne_waiting stage held)
  | ended _ isOver _ _ => exact absurd phase (isOver.ne_waiting stage held)
  | @waits request answered _ _ later _ equipped phase' isSent fed =>
    cases phase.symm.trans phase'
    refine ⟨request, answered, later, rfl, equipped, isSent, fun bytes => ?_⟩
    rw [fedBy_append, fed, List.append_assoc]
    simp only [fedBy, List.flatMap_singleton, Call.bytes]

/-- **Each call keeps the account.** -/
theorem Account.step {call : Call} {result : Outcome × Handshake} (account : Account h calls sent)
    (step : Step h call result) :
    Account result.2 (calls ++ [call]) (sent ++ messagesIn [result.1]) := by
  have silently {next : Handshake} (after : Account next (calls ++ [call]) sent) :
      Account next (calls ++ [call]) (sent ++ []) := by
    rwa [List.append_nil]
  cases step with
  | fails isOver target credentials => exact silently (account.over isOver target credentials call)
  | opens _ =>
    have isOver : Over { h with phase := .established } := Or.inl rfl
    exact silently (account.over isOver rfl rfl _)
  | greets idle equipped =>
    cases account with
    | fresh _ => exact .waits ⟨equipped.fits, equipped.encodes⟩ rfl .greeted rfl
    | waits _ phase _ _ => cases idle.symm.trans phase
    | silent isOver => exact absurd idle isOver.ne_idle
    | ended _ isOver _ _ => exact absurd idle isOver.ne_idle
  | @waits stage held bytes phase =>
    obtain ⟨request, answered, later, rfl, equipped, isSent, fed⟩ := account.of_waiting phase
    exact silently (.waits ⟨equipped.fits, equipped.encodes⟩ rfl isSent (fed bytes))
  | @moves stage next held bytes answer message rest phase moves split =>
    obtain ⟨request, answered, later, rfl, equipped, isSent, fed⟩ := account.of_waiting phase
    refine .waits ⟨equipped.fits, equipped.encodes⟩ rfl (isSent.append moves) ?_
    exact (fed bytes).trans (by rw [split, List.append_assoc])

/-- **How a handshake stands after all calls** that were made since it was new. -/
theorem account_of_run (target : HostPort) (credentials : Option Credentials)
    (calls : List Call) :
    Account (run { target, credentials } calls) calls
      (messagesIn (outcomes { target, credentials } calls)) := by
  induction calls using List.reverseRecOn with
  | nil => exact .fresh rfl
  | append_singleton calls call ih =>
    rw [run_append, outcomes_append, messagesIn_append]
    exact ih.step (step_answer _ call)

/-- A tunnel is opened only by a handshake that has sent the CONNECT request. -/
theorem Account.request_mem_of_done (account : Account h calls sent) {call : Call}
    {result : Outcome × Handshake} (step : Step h call result) (done : result.1.isDone = true) :
    ∃ request, connectRequest? h.target = some request ∧ request ∈ sent := by
  cases step with
  | opens phase =>
    obtain ⟨request, answered, later, rfl, equipped, isSent, -⟩ := account.of_waiting phase
    exact isSent.request_mem
  | _ => cases done

/-- A message about the authentication tells the user and password to a server that has asked for
them. -/
theorem Account.authentication (account : Account h calls sent) {message : Bytes}
    (mem : message ∈ sent) (about : message.head? = some Socks5.authenticationVersion) :
    ∃ c, h.credentials = some c ∧ readAuthentication? message = some c ∧
      ∃ later, calls = .start :: later ∧ [version, methodPassword] <+: fedBy later := by
  rcases account.sent_cases with rfl | ⟨request, stage, answered, later, equipped, rfl, begins,
    isSent⟩
  · cases mem
  · obtain ⟨c, has, rfl, asked⟩ := isSent.authentication_of_mem mem about
    obtain ⟨username, password⟩ := credentialsFit_iff.1 equipped.fits c has
    exact ⟨c, has, readAuthentication?_authenticationRequest username password, later, rfl,
      asked.trans begins⟩

/-! ### Main statement -/

section

variable (target : HostPort) (credentials : Option Credentials)

/-- What a new handshake has sent, if anything: the messages up to a stage. -/
theorem sent_cases_of_run (calls : List Call) :
    messagesIn (outcomes { target, credentials } calls) = [] ∨
      ∃ request stage answered, Equipped { target, credentials } request ∧
        Sent credentials target stage answered
          (messagesIn (outcomes { target, credentials } calls)) := by
  obtain ⟨same, same'⟩ := configuration_run { target, credentials } calls
  rcases (account_of_run target credentials calls).sent_cases with nothing |
    ⟨request, stage, answered, _, ⟨fits, encodes⟩, -, -, isSent⟩
  · exact Or.inl nothing
  · rw [credentialsFit, same'] at fits
    rw [same] at encodes
    rw [same, same'] at isSent
    exact Or.inr ⟨request, stage, answered, ⟨fits, encodes⟩, isSent⟩

theorem messages_isPrefix (calls : List Call) :
    let sent := messagesIn (outcomes { target, credentials } calls)
    sent = [] ∨ ∃ request, connectRequest? target = some request ∧
      (sent <+: [greeting credentials.isSome, request] ∨
        ∃ c, credentials = some c ∧
          sent <+: [greeting credentials.isSome, authenticationRequest c, request]) := by
  rcases sent_cases_of_run target credentials calls with nothing |
    ⟨request, _, _, equipped, isSent⟩
  · exact Or.inl nothing
  · exact Or.inr ⟨request, equipped.encodes, isSent.isPrefix equipped.encodes⟩

/-- The first message offers the password method exactly if there are a user and a password. -/
theorem first_message_offers (calls : List Call) {message : Bytes}
    (first : (messagesIn (outcomes { target, credentials } calls)).head? = some message) :
    ∃ methods, readGreeting? message = some methods ∧
      (methodPassword ∈ methods ↔ credentials.isSome = true) := by
  rcases sent_cases_of_run target credentials calls with nothing | ⟨_, _, _, -, isSent⟩
  · rw [nothing] at first
    cases first
  · rw [isSent.head?] at first
    cases first
    exact readGreeting?_greeting credentials.isSome

/-- A message about the authentication comes when the bytes fed so far have asked for it. -/
theorem authentication_of_emit {calls : List Call} {before after : List Outcome} {message : Bytes}
    (told : outcomes { target, credentials } calls = before ++ .emit message :: after)
    (about : message.head? = some Socks5.authenticationVersion) :
    ∃ c, credentials = some c ∧ readAuthentication? message = some c ∧
      ∃ later, calls.take (before.length + 1) = .start :: later ∧
        [version, methodPassword] <+: fedBy later := by
  obtain ⟨earlier, call, later, rfl, length, rfl, emitted, -⟩ := exists_call_of_outcomes told
  -- The call that sends the message is the last one of those looked at.
  have mem : message ∈ messagesIn (outcomes { target, credentials } (earlier ++ [call])) := by
    rw [outcomes_append, messagesIn_append, outcomes_cons, emitted]
    exact List.mem_append_right _ List.mem_cons_self
  have whole : (earlier ++ call :: later).take
      ((outcomes { target, credentials } earlier).length + 1) = earlier ++ [call] := by
    rw [← length, List.take_length_add_append]
    rfl
  have asked := (account_of_run target credentials (earlier ++ [call])).authentication mem about
  rwa [(configuration_run _ (earlier ++ [call])).2, ← whole] at asked

/-- The CONNECT request was sent before the tunnel is opened. -/
theorem request_of_done {calls : List Call} {before after : List Outcome} {leftover : Bytes}
    (told : outcomes { target, credentials } calls = before ++ .done leftover :: after) :
    ∃ request, connectRequest? target = some request ∧ request ∈ messagesIn before := by
  obtain ⟨earlier, call, later, rfl, length, rfl, done, -⟩ := exists_call_of_outcomes told
  have requested := (account_of_run target credentials earlier).request_mem_of_done
    (step_answer _ call) (by rw [done]; rfl)
  rwa [(configuration_run _ earlier).1] at requested

/-- A handshake with a message that cannot be made up sends nothing. -/
theorem nothing_sent (calls : List Call)
    (cannot : connectRequest? target = none ∨ ∃ c, credentials = some c ∧
      (maxFieldLength < c.username.length ∨ maxFieldLength < c.password.length)) :
    messagesIn (outcomes { target, credentials } calls) = [] := by
  rcases sent_cases_of_run target credentials calls with nothing |
    ⟨request, _, _, ⟨fits, encodes⟩, -⟩
  · exact nothing
  · rcases cannot with unencodable | ⟨c, has, long⟩
    · cases encodes.symm.trans unencodable
    · obtain ⟨username, password⟩ := credentialsFit_iff.1 fits c has
      rcases long with long | long
      · exact absurd username (Nat.not_le.2 long)
      · exact absurd password (Nat.not_le.2 long)

end

/-- **What is sent, and when**, by a new handshake that is called in any order. The messages are a
beginning of greeting and CONNECT request, with the user and password between them or without.
The greeting offers the password method exactly if there are a user and a password. A message about
the authentication, which is one that begins with its version, is read back as these, and is sent
only when the bytes fed since the start begin with the choice of that method. The tunnel is opened
once at most, and after the CONNECT request was sent. After a failure there are only failures. If a
message cannot be made up, nothing is sent. -/
theorem sends_in_order (target : HostPort) (credentials : Option Credentials)
    (calls : List Call) :
    let outcomes := outcomes { target, credentials } calls
    (messagesIn outcomes = [] ∨ ∃ request, connectRequest? target = some request ∧
      (messagesIn outcomes <+: [greeting credentials.isSome, request] ∨
        ∃ c, credentials = some c ∧
          messagesIn outcomes <+:
            [greeting credentials.isSome, authenticationRequest c, request])) ∧
    (∀ message, (messagesIn outcomes).head? = some message →
      ∃ methods, readGreeting? message = some methods ∧
        (methodPassword ∈ methods ↔ credentials.isSome = true)) ∧
    (∀ before message after, outcomes = before ++ .emit message :: after →
      message.head? = some Socks5.authenticationVersion →
      ∃ c, credentials = some c ∧ readAuthentication? message = some c ∧
        ∃ later, calls.take (before.length + 1) = .start :: later ∧
          [version, methodPassword] <+: fedBy later) ∧
    outcomes.countP Outcome.isDone ≤ 1 ∧
    (∀ before leftover after, outcomes = before ++ .done leftover :: after →
      ∃ request, connectRequest? target = some request ∧ request ∈ messagesIn before) ∧
    (∀ before error after, outcomes = before ++ .failed error :: after →
      ∀ outcome ∈ after, ∃ error, outcome = .failed error) ∧
    ((connectRequest? target = none ∨ ∃ c, credentials = some c ∧
        (255 < c.username.length ∨ 255 < c.password.length)) →
      messagesIn outcomes = []) := by
  intro outcomes
  exact ⟨messages_isPrefix target credentials calls,
    fun _ => first_message_offers target credentials calls,
    fun _ _ _ => authentication_of_emit target credentials,
    countP_isDone_le_one _ calls,
    fun _ _ _ => request_of_done target credentials,
    fun _ _ _ told => refused_after told rfl,
    nothing_sent target credentials calls⟩

/-- The user and password are asked for in two pieces, and there is a second start. -/
theorem sends_in_order_with_password :
    outcomes { target := ⟨ascii "10.0.0.1", 443⟩, credentials := some ⟨[0x75], [0x70]⟩ }
        [.start, .feed [5], .feed [2], .feed [1, 0], .start] =
      [.emit [5, 2, 0, 2], .needMore] ++ .emit [1, 1, 0x75, 1, 0x70] ::
        [.emit [5, 1, 0, 1, 10, 0, 0, 1, 1, 0xBB], .failed .alreadyStarted] ∧
    ∃ c, some ⟨[0x75], [0x70]⟩ = some c ∧ readAuthentication? [1, 1, 0x75, 1, 0x70] = some c ∧
      ∃ later, [Call.start, .feed [5], .feed [2]] = .start :: later ∧ [5, 2] <+: fedBy later := by
  have told : outcomes
      { target := ⟨ascii "10.0.0.1", 443⟩, credentials := some ⟨[0x75], [0x70]⟩ }
      [.start, .feed [5], .feed [2], .feed [1, 0], .start] =
      [.emit [5, 2, 0, 2], .needMore] ++ .emit [1, 1, 0x75, 1, 0x70] ::
        [.emit [5, 1, 0, 1, 10, 0, 0, 1, 1, 0xBB], .failed .alreadyStarted] := by
    decide +kernel
  obtain ⟨-, -, asked, -⟩ := sends_in_order ⟨ascii "10.0.0.1", 443⟩ (some ⟨[0x75], [0x70]⟩)
    [.start, .feed [5], .feed [2], .feed [1, 0], .start]
  exact ⟨told, asked _ _ _ told rfl⟩

end Handshake

end ProxyRouting.Socks5
