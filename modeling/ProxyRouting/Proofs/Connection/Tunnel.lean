import ProxyRouting.Proofs.Connection.Stream

/-!
# When a tunnel is opened

An attempt asks for a tunnel over a network on which the proxy is reached and no write fails. It
succeeds if and only if the stream that the proxy sends begins with a transcript. Then it has
sent the client's half of the `Conversation`, and nothing else, and has read the transcript and
what it reports as left over.
-/

namespace ProxyRouting.Connection

open Socks5 (Handshake Outcome Verdict Transcript Reply Accepted Whole connectRequest? greeting
  authenticationRequest version methodNone methodPassword)

variable {a : Attempt} {request : Bytes} {script : Script} {stream : Bytes}

/-! ### Conversations -/

/-- What a server sends until the tunnel is established, and what the client sends to it. -/
inductive Conversation (credentials : Option Credentials) (request : Bytes) :
    Bytes → List Bytes → Prop
  /-- No authentication. -/
  | plain {reply : Bytes} : Reply reply →
      Conversation credentials request ([version, methodNone] ++ reply)
        [greeting credentials.isSome, request]
  /-- The user and password are asked for and accepted. -/
  | password {reply : Bytes} (c : Credentials) : credentials = some c → Reply reply →
      Conversation credentials request
        ([version, methodPassword, Socks5.authenticationVersion, 0] ++ reply)
        [greeting credentials.isSome, authenticationRequest c, request]

/-- There is one conversation with each transcript. -/
theorem exists_conversation {credentials : Option Credentials} (request : Bytes)
    {transcript : Bytes} (isTranscript : Transcript credentials.isSome transcript) :
    ∃ messages, Conversation credentials request transcript messages := by
  cases isTranscript with
  | plain reply => exact ⟨_, .plain reply⟩
  | password has reply =>
    obtain ⟨c, has⟩ := Option.isSome_iff_exists.1 has
    exact ⟨_, .password c has reply⟩

theorem Conversation.transcript {credentials : Option Credentials} {transcript : Bytes}
    {messages : List Bytes} (conversation : Conversation credentials request transcript messages) :
    Transcript credentials.isSome transcript := by
  cases conversation with
  | plain reply => exact .plain reply
  | password c has reply => exact .password (Option.isSome_iff_exists.2 ⟨c, has⟩) reply

/-- A handshake keeps up the client's half of a conversation. -/
theorem Conversation.verdict {h : Handshake} (encodes : connectRequest? h.target = some request)
    {transcript : Bytes} {messages : List Bytes}
    (conversation : Conversation h.credentials request transcript messages) (rest : Bytes) :
    ((h.awaiting .greeting).pour (transcript ++ rest)).verdict.afterMessage
        (greeting h.credentials.isSome) =
      ⟨messages, .done rest, { h with phase := .established }⟩ := by
  cases conversation with
  | plain reply =>
    rw [List.append_assoc, Handshake.verdict_pour_plain encodes, Handshake.verdict_pour_reply reply]
    rfl
  | @password reply c has isReply =>
    have first := Handshake.verdict_pour_password has
      ([Socks5.authenticationVersion, 0] ++ (reply ++ rest))
    rw [Handshake.verdict_pour_accepted encodes, Handshake.verdict_pour_reply isReply] at first
    exact congrArg (Verdict.afterMessage _) first

/-! ### The way to the handshake -/

/-- The attempt is for a tunnel whose messages can be made up. -/
structure Attempt.AsksTunnel (a : Attempt) (request : Bytes) : Prop where
  /-- The proxy speaks SOCKS5. -/
  isTunnel : Scheme.isTunnel a.via.scheme = true
  /-- There is a CONNECT request for the target. -/
  encodes : connectRequest? a.target = some request
  /-- The user and password fit their length bytes. -/
  fits : a.handshake.credentialsFit = true

/-- Every write that is made over the script succeeds. -/
def WritesSucceed (script : Script) (a : Attempt) : Prop :=
  ∀ message, (a, .failed (.write message)) ∉ (runAll script [a]).endings

/-- What an attempt comes to whose proxy sends the stream. -/
def tunnelVerdict (a : Attempt) (stream : Bytes) : Verdict :=
  ((a.handshake.awaiting .greeting).pour stream).verdict.afterMessage
    (greeting a.credentials.isSome)

theorem runAll_of_delivers (asks : a.AsksTunnel request) (delivers : script.Delivers stream) :
    runAll script [a] =
      (run script
        [(a, .write (greeting a.credentials.isSome) (a.handshake.awaiting .greeting))]).after
        [.resolve a.via.host a.via.port, .connect, .write (greeting a.credentials.isSome)] := by
  have resolved : perform script a .resolve = ⟨.waiting .connect, [], script⟩ := by
    obtain ⟨count, endpoints⟩ := Nat.exists_eq_succ_of_ne_zero
      (Nat.pos_iff_ne_zero.1 delivers.hasEndpoint)
    simp only [perform, Script.resolve, delivers.resolves, Attempt.resolved, endpoints]
  have start : a.handshake.start =
      (.emit (greeting a.credentials.isSome), a.handshake.awaiting .greeting) :=
    Handshake.start_of_fits rfl asks.fits asks.encodes
  have connected : perform script a .connect =
      ⟨.waiting (.write (greeting a.credentials.isSome) (a.handshake.awaiting .greeting)), [],
        script⟩ := by
    simp only [perform, Script.connect, delivers.connects, Attempt.connected, asks.isTunnel,
      if_true, start, Progress.ofOutcome]
  simp only [runAll, List.map_cons, List.map_nil, run_singleton script a .resolve, resolved, follow,
    run_singleton script a .connect, connected]
  rfl

/-- The run of an attempt at a tunnel is its handshake over the stream. -/
theorem runAll_follows (asks : a.AsksTunnel request) (delivers : script.Delivers stream) :
    WriteFails script a (runAll script [a]) ∨
      Follows a stream (tunnelVerdict a stream) (runAll script [a]) := by
  have waits : (a.handshake.awaiting .greeting).InNegotiation := ⟨.greeting, [], rfl⟩
  rw [runAll_of_delivers asks delivers]
  rcases run_write (greeting a.credentials.isSome) waits delivers.feeds
    (fun _ feeds _ => follow_feed waits [] feeds) with fails | follows
  · exact Or.inl fails
  · exact Or.inr (follows.after [.resolve a.via.host a.via.port, .connect,
      .write (greeting a.credentials.isSome)] [] rfl)

theorem follows_of_writesSucceed (asks : a.AsksTunnel request) (delivers : script.Delivers stream)
    (sent : WritesSucceed script a) :
    Follows a stream (tunnelVerdict a stream) (runAll script [a]) := by
  rcases runAll_follows asks delivers with ⟨message, -, endings⟩ | follows
  · exact absurd (by rw [endings]; exact List.mem_singleton.2 rfl) (sent message)
  · exact follows

/-- Where no fault is foreseen, no write fails. -/
theorem writesSucceed_of_no_fault (asks : a.AsksTunnel request) (delivers : script.Delivers stream)
    (noFault : script.writeFault = none) : WritesSucceed script a := by
  intro message failed
  rcases runAll_follows asks delivers with ⟨_, ⟨position, fault⟩, -⟩ | ⟨-, _, _, endings, closes, -⟩
  · rw [noFault] at fault
    cases fault
  · rw [endings] at failed
    cases List.mem_singleton.1 failed
    generalize (tunnelVerdict a stream).outcome = outcome at closes
    cases closes

/-! ### Main statement -/

/-- Two results differ only in how many of the bytes behind the negotiation were read. -/
structure Result.Agrees (one other : Result) : Prop where
  /-- Both succeeded, or neither did. -/
  ok : one.ok = other.ok
  /-- For the same reason. -/
  error : one.error = other.error
  /-- The socket is in the same state. -/
  socketOpen : one.socketOpen = other.socketOpen
  /-- One has read as much as the other and perhaps more. -/
  leftover : one.leftover <+: other.leftover ∨ other.leftover <+: one.leftover

/-- An attempt that succeeds has held a conversation, and what was read are the transcript and
the bytes left over. -/
theorem conversation_of_opened (asks : a.AsksTunnel request) {unread leftover : Bytes}
    (closes : Closes (tunnelVerdict a stream).outcome unread (.opened leftover)) :
    ∃ transcript, Conversation a.credentials request transcript (tunnelVerdict a stream).messages ∧
      stream = transcript ++ leftover ++ unread := by
  generalize poured : (tunnelVerdict a stream).outcome = outcome at closes
  cases closes
  obtain ⟨transcript, isTranscript, rest, rfl⟩ :=
    Handshake.accepted_of_done (h := a.handshake) asks.encodes poured
  obtain ⟨messages, conversation⟩ := exists_conversation request isTranscript
  have verdict : tunnelVerdict a (transcript ++ rest) = _ :=
    conversation.verdict (h := a.handshake) asks.encodes rest
  rw [verdict] at poured ⊢
  refine ⟨transcript, conversation, ?_⟩
  rw [List.append_assoc, Outcome.done.inj poured]

/-- An attempt whose proxy sends a transcript succeeds. -/
theorem opened_of_accepted (asks : a.AsksTunnel request) {unread : Bytes} {ending : Ending}
    (closes : Closes (tunnelVerdict a stream).outcome unread ending)
    (accepted : Accepted a.credentials.isSome stream) : ∃ leftover, ending = .opened leftover := by
  obtain ⟨transcript, isTranscript, rest, rfl⟩ := accepted
  obtain ⟨messages, conversation⟩ := exists_conversation request isTranscript
  have verdict : tunnelVerdict a (transcript ++ rest) = _ :=
    conversation.verdict (h := a.handshake) asks.encodes rest
  rw [verdict] at closes
  generalize outcome : Outcome.done rest = done at closes
  cases closes with
  | opened leftover unread => exact ⟨leftover, rfl⟩
  | failed error unread => cases outcome
  | closed => cases outcome

/-- Ways to end over the same stream give results that agree and lines that are the same. -/
theorem results_agree {outcome : Outcome} {unread unread' : Bytes} {ending ending' : Ending}
    (closes : Closes outcome unread ending) (closes' : Closes outcome unread' ending') :
    (a.result ending).Agrees (a.result ending') ∧ a.report ending = a.report ending' ∧
      ending.isOpen = ending'.isOpen := by
  rcases closes.agree closes' with rfl | ⟨leftover, leftover', rfl, rfl, comparable⟩
  · exact ⟨⟨rfl, rfl, rfl, Or.inl List.prefix_rfl⟩, rfl, rfl⟩
  · exact ⟨⟨rfl, rfl, rfl, comparable⟩, rfl, rfl⟩

/-- **A tunnel is opened exactly if the stream begins with a transcript**, however it is cut. The
proxy is reached, and no write fails. Then the attempt has one result, which is a success if and
only if the proxy's bytes begin with a transcript. After a success the client's half of the
conversation was sent, and what was read are the transcript and the bytes reported as left over.
No read is started while a complete answer is held. Another way to cut the stream leads to the
same messages, lines and result, but for how much was read behind the transcript. -/
theorem tunnel_follows_stream {a : Attempt} {request : Bytes} {script : Script} {stream : Bytes}
    (asks : a.AsksTunnel request) (delivers : script.Delivers stream)
    (sent : WritesSucceed script a) :
    (∃ result, (runAll script [a]).results = [result] ∧
      (result.ok = true ↔ Accepted a.credentials.isSome stream) ∧
      (result.ok = true → ∃ transcript,
        Conversation a.credentials request transcript (runAll script [a]).written ∧
        transcript ++ result.leftover <+: stream ∧
        (runAll script [a]).readCount = (transcript ++ result.leftover).length)) ∧
    (∀ script' h, Reaches a script ⟨script', .read h⟩ →
      ∃ stage held, h.phase = .waiting stage held ∧
        ∀ answer, Whole stage answer → ¬ answer <+: held) ∧
    ∀ other : Script, other.Delivers stream → WritesSucceed other a →
      ∃ result result', (runAll script [a]).results = [result] ∧
        (runAll other [a]).results = [result'] ∧ result.Agrees result' ∧
        (runAll script [a]).written = (runAll other [a]).written ∧
        (runAll script [a]).reports = (runAll other [a]).reports ∧
        (runAll script [a]).complaints = (runAll other [a]).complaints := by
  obtain ⟨written, unread, ending, endings, closes, counted⟩ :=
    follows_of_writesSucceed asks delivers sent
  have results : (runAll script [a]).results = [a.result ending] := by
    rw [Trace.results, endings]
    rfl
  refine ⟨⟨a.result ending, results, ?_, ?_⟩, fun _ _ => no_answer_held_by_read, ?_⟩
  · constructor
    · intro ok
      cases ending with
      | opened leftover =>
        obtain ⟨transcript, conversation, rfl⟩ := conversation_of_opened asks closes
        rw [List.append_assoc]
        exact ⟨transcript, conversation.transcript, List.prefix_append _ _⟩
      | failed error => cases ok
    · intro accepted
      obtain ⟨leftover, rfl⟩ := opened_of_accepted asks closes accepted
      rfl
  · intro ok
    cases ending with
    | opened leftover =>
      obtain ⟨transcript, conversation, eq⟩ := conversation_of_opened asks closes
      rw [eq, List.length_append] at counted
      rw [written]
      exact ⟨transcript, conversation, ⟨unread, eq.symm⟩, Nat.add_right_cancel counted⟩
    | failed error => cases ok
  · intro other delivers' sent'
    obtain ⟨written', unread', ending', endings', closes', -⟩ :=
      follows_of_writesSucceed asks delivers' sent'
    obtain ⟨agree, report, isOpen⟩ := results_agree (a := a) closes closes'
    refine ⟨_, a.result ending', results, ?_, agree, written.trans written'.symm, ?_, ?_⟩
    · rw [Trace.results, endings']
      rfl
    · rw [reports_of_endings endings, reports_of_endings endings', report, isOpen]
    · rw [complaints_of_endings endings, complaints_of_endings endings', report, isOpen]

/-- The server's answers come in two pieces, with a byte behind them. -/
theorem tunnel_follows_two_pieces :
    ∃ result, (runAll { arrivals := [.data [5, 0, 5], .data [0, 0, 3, 1, 0x61, 0, 80, 0x16]] }
        [⟨ascii "p", ⟨Scheme.socks5, ascii "10.0.0.2", 1080⟩, ⟨ascii "10.0.0.1", 443⟩,
          none⟩]).results = [result] ∧ result.ok = true := by
  have asks : Attempt.AsksTunnel ⟨ascii "p", ⟨Scheme.socks5, ascii "10.0.0.2", 1080⟩,
      ⟨ascii "10.0.0.1", 443⟩, none⟩ [5, 1, 0, 1, 10, 0, 0, 1, 1, 0xBB] :=
    ⟨by decide, by decide, rfl⟩
  have delivers : Script.Delivers
      { arrivals := [.data [5, 0, 5], .data [0, 0, 3, 1, 0x61, 0, 80, 0x16]] }
      [5, 0, 5, 0, 0, 3, 1, 0x61, 0, 80, 0x16] :=
    ⟨rfl, by decide, rfl, [[5, 0, 5], [0, 0, 3, 1, 0x61, 0, 80, 0x16]], rfl, rfl⟩
  have reply : Reply [5, 0, 0, 3, 1, 0x61, 0, 80] :=
    @Reply.mk Socks5.typeDomain [1, 0x61] [0, 80] (.domain rfl) rfl
  obtain ⟨⟨result, results, accepted, -⟩, -⟩ :=
    tunnel_follows_stream asks delivers (writesSucceed_of_no_fault asks delivers rfl)
  exact ⟨result, results, accepted.2 ⟨_, .plain reply, [0x16], rfl⟩⟩

end ProxyRouting.Connection
