import ProxyRouting.Proofs.Socks5.Monotonicity

/-!
# Feeding a handshake

A server's bytes reach a handshake in chunks that have nothing to do with its messages: a
message may be spread over many chunks, and a chunk may hold several messages. A call of
`feed` handles one message at most, so whoever owns the connection may *drain* the handshake,
which is to feed it nothing for as long as it has a message to send.

A `Dialogue` is the record of such calls. `feedAll` makes them for a list of chunks,
`pour` feeds some bytes and drains, and `deliver` feeds chunks of which each may be
drained or not, and drains at the end.

Draining is feeding empty chunks (`deliver_eq_feedAll`), and what comes of a list of chunks is
what comes of pouring all their bytes at once (`feedAll_agrees`, `deliver_agrees`): how the bytes
are cut and where it is drained makes no difference to the messages sent, to the handshake at
the end, and to the bytes that come out of the tunnel.
-/

namespace ProxyRouting.Socks5

/-! ### Records of calls -/

/-- One call of `feed`. -/
structure Exchange where
  /-- The bytes that were fed. -/
  bytes : Bytes
  /-- What came of it. -/
  outcome : Outcome
  deriving DecidableEq, Repr

/-- The message to be sent, if there is one. -/
def Outcome.message? : Outcome → Option Bytes
  | .emit message => some message
  | _ => none

/-- The bytes behind the negotiation, if it is over. -/
def Outcome.leftover : Outcome → Bytes
  | .done leftover => leftover
  | _ => []

/-- Some calls of a handshake, and how it stands after them. -/
structure Dialogue where
  /-- The calls of `feed`, the earliest first. -/
  exchanges : List Exchange
  /-- What came of the latest call. -/
  outcome : Outcome
  /-- The handshake after it. -/
  handshake : Handshake
  deriving DecidableEq, Repr

/-- The messages that came out of some calls. -/
def messagesOf (exchanges : List Exchange) : List Bytes :=
  exchanges.filterMap (·.outcome.message?)

/-- The bytes for the upper layer: those that are left over when the tunnel is established,
and all that were fed after that. -/
def tunnelled : List Exchange → Bytes
  | [] => []
  | ⟨_, .done leftover⟩ :: rest => leftover ++ (rest.map (·.bytes)).flatten
  | _ :: rest => tunnelled rest

/-- What is seen of a dialogue that does not look at its single calls. -/
structure Verdict where
  /-- The messages to be sent, the earliest first. -/
  messages : List Bytes
  /-- What came of the latest call. -/
  outcome : Outcome
  /-- The handshake after it. -/
  handshake : Handshake
  deriving DecidableEq, Repr

/-- The verdict with a message that was to be sent before. -/
def Verdict.afterMessage (message : Bytes) (v : Verdict) : Verdict :=
  { v with messages := message :: v.messages }

namespace Dialogue

/-- The messages to be sent. -/
def messages (d : Dialogue) : List Bytes := messagesOf d.exchanges

/-- What a dialogue comes to, whatever the calls were. -/
def verdict (d : Dialogue) : Verdict := ⟨d.messages, d.outcome, d.handshake⟩

/-- Puts earlier calls before those of a dialogue. -/
def after (earlier : List Exchange) (d : Dialogue) : Dialogue :=
  { d with exchanges := earlier ++ d.exchanges }

end Dialogue

namespace Handshake

/-! ### Ways to feed -/

/-- Feeds chunks one after another, where `answer` is that of the call before. -/
def feedAll (answer : Outcome × Handshake) : List Bytes → Dialogue
  | [] => ⟨[], answer.1, answer.2⟩
  | chunk :: rest =>
    let fed := answer.2.feed chunk
    (feedAll fed rest).after [⟨chunk, fed.1⟩]

/-- Feeds bytes and drains. -/
def pour (h : Handshake) (bytes : Bytes) : Dialogue :=
  match _fed : h.feed bytes with
  | (.emit message, next) => (pour next []).after [⟨bytes, .emit message⟩]
  | (outcome, next) => ⟨[⟨bytes, outcome⟩], outcome, next⟩
termination_by h.buffered + bytes.length
decreasing_by
  have emitted : (h.feed bytes).1 = .emit message := by rw [_fed]
  have next_eq : (h.feed bytes).2 = next := by rw [_fed]
  have fewer := buffered_feed_of_emit emitted
  rw [next_eq] at fewer
  simp only [List.length_nil]
  omega

/-- Drains, where `answer` is that of the call before. -/
def drain : Outcome × Handshake → Dialogue
  | (.emit _, h) => h.pour []
  | (outcome, h) => ⟨[], outcome, h⟩

/-- A chunk, and whether it is drained after it. -/
structure Delivery where
  /-- The bytes of the chunk. -/
  bytes : Bytes
  /-- Whether it is drained. -/
  drained : Bool
  deriving DecidableEq, Repr

/-- Feeds a chunk. -/
def Delivery.feed (d : Delivery) (h : Handshake) : Dialogue :=
  if d.drained then h.pour d.bytes
  else ⟨[⟨d.bytes, (h.feed d.bytes).1⟩], (h.feed d.bytes).1, (h.feed d.bytes).2⟩

/-- Feeds chunks one after another, and drains after the last one in any case. -/
def deliver (answer : Outcome × Handshake) : List Delivery → Dialogue
  | [] => drain answer
  | d :: rest =>
    let first := d.feed answer.2
    (deliver (first.outcome, first.handshake) rest).after first.exchanges

/-- The bytes of some chunks. -/
def deliveredBytes (deliveries : List Delivery) : Bytes := (deliveries.map (·.bytes)).flatten

/-! ### Draining is feeding empty chunks -/

theorem feedAll_cons (answer : Outcome × Handshake) (chunk : Bytes) (rest : List Bytes) :
    feedAll answer (chunk :: rest) =
      (feedAll (answer.2.feed chunk) rest).after [⟨chunk, (answer.2.feed chunk).1⟩] := rfl

theorem feedAll_append (answer : Outcome × Handshake) (earlier later : List Bytes) :
    feedAll answer (earlier ++ later) =
      (feedAll ((feedAll answer earlier).outcome, (feedAll answer earlier).handshake) later).after
        (feedAll answer earlier).exchanges := by
  induction earlier generalizing answer with
  | nil => rfl
  | cons chunk rest ih =>
    rw [List.cons_append, feedAll_cons, ih]
    rfl

/-- Each chunk is fed once. -/
theorem bytes_feedAll (answer : Outcome × Handshake) (chunks : List Bytes) :
    (feedAll answer chunks).exchanges.map (·.bytes) = chunks := by
  induction chunks generalizing answer with
  | nil => rfl
  | cons chunk rest ih => exact congrArg (chunk :: ·) (ih _)

theorem pour_of_emit {h next : Handshake} {bytes message : Bytes}
    (fed : h.feed bytes = (.emit message, next)) :
    h.pour bytes = (next.pour []).after [⟨bytes, .emit message⟩] := by
  rw [pour]
  split
  · next fed' =>
    rw [fed] at fed'
    cases fed'
    rfl
  · next not_emit fed' =>
    rw [fed] at fed'
    cases fed'
    exact absurd rfl (not_emit message)

theorem pour_of_not_emit {h next : Handshake} {bytes : Bytes} {outcome : Outcome}
    (fed : h.feed bytes = (outcome, next)) (silent : outcome.message? = none) :
    h.pour bytes = ⟨[⟨bytes, outcome⟩], outcome, next⟩ := by
  rw [pour]
  split
  · next fed' =>
    rw [fed] at fed'
    cases fed'
    cases silent
  · next fed' =>
    rw [fed] at fed'
    cases fed'
    rfl

/-- Nothing is to be sent any more when a handshake is drained. -/
theorem message?_pour (h : Handshake) (bytes : Bytes) : (h.pour bytes).outcome.message? = none := by
  fun_induction pour h bytes with
  | case1 h bytes message next fed ih => exact ih
  | case2 h bytes outcome next not_emit fed =>
    cases outcome with
    | emit message => exact absurd rfl (not_emit message)
    | needMore => rfl
    | done leftover => rfl
    | failed error => rfl

theorem pour_eq_feedAll (h : Handshake) (bytes : Bytes) (outcome : Outcome) :
    ∃ count, h.pour bytes = feedAll (outcome, h) (bytes :: List.replicate count []) := by
  fun_induction pour h bytes generalizing outcome with
  | case1 h bytes message next fed ih =>
    obtain ⟨count, ih⟩ := ih (.emit message)
    refine ⟨count + 1, ?_⟩
    rw [feedAll_cons, fed, List.replicate_succ, ih]
  | case2 h bytes answer next not_emit fed =>
    refine ⟨0, ?_⟩
    rw [feedAll_cons, fed]
    rfl

theorem drain_eq_feedAll (answer : Outcome × Handshake) :
    ∃ count, drain answer = feedAll answer (List.replicate count []) := by
  obtain ⟨outcome, h⟩ := answer
  cases outcome with
  | emit message =>
    obtain ⟨count, poured⟩ := h.pour_eq_feedAll [] (.emit message)
    exact ⟨count + 1, poured⟩
  | needMore => exact ⟨0, rfl⟩
  | done leftover => exact ⟨0, rfl⟩
  | failed error => exact ⟨0, rfl⟩

theorem Delivery.feed_eq_feedAll (d : Delivery) (outcome : Outcome) (h : Handshake) :
    ∃ count, d.feed h = feedAll (outcome, h) (d.bytes :: List.replicate count []) := by
  unfold Delivery.feed
  split
  · exact h.pour_eq_feedAll d.bytes outcome
  · exact ⟨0, rfl⟩

/-- **Draining is feeding empty chunks**: whatever is drained, there are chunks with the same
bytes that come to the same when they are fed one after another. -/
theorem deliver_eq_feedAll (answer : Outcome × Handshake) (deliveries : List Delivery) :
    ∃ chunks : List Bytes, chunks.flatten = deliveredBytes deliveries ∧
      deliver answer deliveries = feedAll answer chunks := by
  induction deliveries generalizing answer with
  | nil =>
    obtain ⟨count, drained⟩ := drain_eq_feedAll answer
    exact ⟨List.replicate count [], by simp [deliveredBytes], drained⟩
  | cons d rest ih =>
    obtain ⟨count, first⟩ := d.feed_eq_feedAll answer.1 answer.2
    obtain ⟨chunks, bytes, later⟩ := ih ((d.feed answer.2).outcome, (d.feed answer.2).handshake)
    refine ⟨(d.bytes :: List.replicate count []) ++ chunks, ?_, ?_⟩
    · simp [deliveredBytes, bytes]
    · rw [feedAll_append, deliver, later, ← first]

/-- Nothing is to be sent any more when all chunks have been delivered. -/
theorem message?_deliver (answer : Outcome × Handshake) (deliveries : List Delivery) :
    (deliver answer deliveries).outcome.message? = none := by
  induction deliveries generalizing answer with
  | nil =>
    obtain ⟨outcome, h⟩ := answer
    cases outcome with
    | emit message => exact h.message?_pour []
    | needMore => rfl
    | done leftover => rfl
    | failed error => rfl
  | cons d rest ih => exact ih _

/-! ### The verdict on a stream -/

/-- What a call comes to decides what pouring comes to. -/
theorem verdict_pour_of_emit {h next : Handshake} {bytes message : Bytes}
    (fed : h.feed bytes = (.emit message, next)) :
    (h.pour bytes).verdict = (next.pour []).verdict.afterMessage message := by
  rw [pour_of_emit fed]
  rfl

theorem verdict_pour_of_not_emit {h next : Handshake} {bytes : Bytes} {outcome : Outcome}
    (fed : h.feed bytes = (outcome, next)) (silent : outcome.message? = none) :
    (h.pour bytes).verdict = ⟨[], outcome, next⟩ := by
  rw [pour_of_not_emit fed silent]
  simp only [Dialogue.verdict, Dialogue.messages, messagesOf, List.filterMap_cons, silent,
    List.filterMap_nil]

theorem verdict_pour_of_over {h : Handshake} (isOver : h.Over) :
    ∃ error, ∀ bytes, (h.pour bytes).verdict = ⟨[], .failed error, h⟩ := by
  obtain ⟨error, fed⟩ := isOver.feed
  exact ⟨error, fun bytes => verdict_pour_of_not_emit (fed bytes) rfl⟩

/-- Calls with the same answer lead to the same verdict. -/
theorem verdict_pour_congr {h k : Handshake} {x y : Bytes} (same : h.feed x = k.feed y) :
    (h.pour x).verdict = (k.pour y).verdict := by
  rcases k.feed_cases y with eq | ⟨_, _, eq, -⟩ | ⟨_, _, eq, -⟩ | ⟨_, _, eq, -⟩
  · rw [verdict_pour_of_not_emit (same.trans eq) rfl, verdict_pour_of_not_emit eq rfl]
  · rw [verdict_pour_of_not_emit (same.trans eq) rfl, verdict_pour_of_not_emit eq rfl]
  · rw [verdict_pour_of_emit (same.trans eq), verdict_pour_of_emit eq]
  · rw [verdict_pour_of_not_emit (same.trans eq) rfl, verdict_pour_of_not_emit eq rfl]

/-- What comes behind a message of the server is for the handshake that has answered it. -/
theorem verdict_pour_append_of_emit {h next : Handshake} {x message : Bytes} (y : Bytes)
    (fed : h.feed x = (.emit message, next)) :
    (h.pour (x ++ y)).verdict = (next.pour y).verdict.afterMessage message := by
  have whole : h.feed (x ++ y) = (.emit message, next.extend y) := by
    rw [feed_append y (by rw [fed]; exact Outcome.noConfusion), fed]
    rfl
  rw [verdict_pour_of_emit whole]
  congr 1
  exact verdict_pour_congr (by rw [feed_extend, List.append_nil])

theorem verdict_pour_append_of_needMore {h next : Handshake} {x : Bytes} (y : Bytes)
    (fed : h.feed x = (.needMore, next)) : (h.pour (x ++ y)).verdict = (next.pour y).verdict := by
  refine verdict_pour_congr ?_
  rw [feed_append_of_needMore y (by rw [fed]), fed]

theorem verdict_pour_append_of_done {h next : Handshake} {x leftover : Bytes} (y : Bytes)
    (fed : h.feed x = (.done leftover, next)) (established : next.phase = .established) :
    (h.pour (x ++ y)).verdict = ⟨[], .done (leftover ++ y), next⟩ := by
  refine verdict_pour_of_not_emit ?_ rfl
  rw [feed_append y (by rw [fed]; exact Outcome.noConfusion), fed, extendAnswer,
    Over.extend (Or.inl established)]
  rfl

theorem verdict_pour_append_of_failed {h next : Handshake} {x : Bytes} {error : Error} (y : Bytes)
    (fed : h.feed x = (.failed error, next)) (isOver : next.Over) :
    (h.pour (x ++ y)).verdict = ⟨[], .failed error, next⟩ := by
  refine verdict_pour_of_not_emit ?_ rfl
  rw [feed_append y (by rw [fed]; exact Outcome.noConfusion), fed, extendAnswer, isOver.extend]
  rfl

/-! ### Cuts make no difference -/

/-- What was called last leaves nothing to do: there is a message to send, or feeding
nothing changes nothing. -/
def Settled (answer : Outcome × Handshake) : Prop :=
  answer.1.message? = none → answer.2.feed [] = (.needMore, answer.2) ∨ answer.2.Over

theorem settled_feed (h : Handshake) (bytes : Bytes) : Settled (h.feed bytes) := by
  intro silent
  rcases h.feed_cases bytes with eq | ⟨_, _, eq, isOver⟩ | ⟨_, _, eq, -⟩ | ⟨_, _, eq, established⟩
  · left
    have waits : (h.feed bytes).1 = .needMore := by rw [eq]
    rw [← feed_append_of_needMore [] waits, List.append_nil, eq]
  · right
    rwa [eq]
  · rw [eq] at silent
    cases silent
  · right
    rw [eq]
    exact Or.inl established

theorem settled_start {h : Handshake} (idle : h.phase = .idle) : Settled h.start := by
  intro silent
  rcases start_cases idle with ⟨request, -, -, emits⟩ | ⟨error, fails⟩
  · rw [emits] at silent
    cases silent
  · rw [fails]
    exact Or.inr (Or.inr ⟨error, rfl⟩)

theorem messages_after_singleton (bytes : Bytes) (outcome : Outcome) (d : Dialogue) :
    (d.after [⟨bytes, outcome⟩]).messages = outcome.message?.toList ++ d.messages := by
  cases outcome <;> rfl

/-- **Cuts make no difference**: feeding chunks one after another, up to where nothing is to be
sent, comes to what pouring all their bytes at once comes to. The bytes for the upper layer
are then those that pouring leaves over. -/
theorem feedAll_agrees {answer : Outcome × Handshake} {chunks : List Bytes}
    (settled : Settled answer) (silent : (feedAll answer chunks).outcome.message? = none) :
    (feedAll answer chunks).messages = (answer.2.pour chunks.flatten).verdict.messages ∧
      (feedAll answer chunks).handshake = (answer.2.pour chunks.flatten).verdict.handshake ∧
      tunnelled (feedAll answer chunks).exchanges =
        (answer.2.pour chunks.flatten).verdict.outcome.leftover := by
  induction chunks generalizing answer with
  | nil =>
    rcases settled silent with waits | isOver
    · rw [List.flatten_nil, verdict_pour_of_not_emit waits rfl]
      exact ⟨rfl, rfl, rfl⟩
    · obtain ⟨error, poured⟩ := verdict_pour_of_over isOver
      rw [poured]
      exact ⟨rfl, rfl, rfl⟩
  | cons chunk rest ih =>
    obtain ⟨messages, handshake, tunnel⟩ := ih (answer.2.settled_feed chunk) silent
    rw [feedAll_cons, messages_after_singleton, messages, List.flatten_cons]
    simp only [Dialogue.after, List.singleton_append, handshake]
    -- What the first chunk comes to decides how the bytes behind it are looked at.
    rcases answer.2.feed_cases chunk with fed | ⟨error, next, fed, isOver⟩ |
      ⟨message, next, fed, -⟩ | ⟨leftover, next, fed, established⟩
    · rw [fed] at tunnel ⊢
      rw [verdict_pour_append_of_needMore _ fed]
      exact ⟨rfl, rfl, tunnel⟩
    · obtain ⟨_, poured⟩ := verdict_pour_of_over isOver
      rw [fed] at tunnel ⊢
      rw [poured] at tunnel ⊢
      rw [verdict_pour_append_of_failed _ fed isOver]
      exact ⟨rfl, rfl, tunnel⟩
    · rw [fed] at tunnel ⊢
      rw [verdict_pour_append_of_emit _ fed]
      exact ⟨rfl, rfl, tunnel⟩
    · obtain ⟨_, poured⟩ := verdict_pour_of_over (Or.inl established)
      rw [verdict_pour_append_of_done _ fed established, fed, poured]
      refine ⟨rfl, rfl, ?_⟩
      rw [tunnelled, bytes_feedAll]
      rfl

/-- What is delivered comes to what pouring all of it at once comes to. -/
theorem deliver_agrees {answer : Outcome × Handshake} (settled : Settled answer)
    (deliveries : List Delivery) :
    (deliver answer deliveries).messages =
        (answer.2.pour (deliveredBytes deliveries)).verdict.messages ∧
      (deliver answer deliveries).handshake =
        (answer.2.pour (deliveredBytes deliveries)).verdict.handshake ∧
      tunnelled (deliver answer deliveries).exchanges =
        (answer.2.pour (deliveredBytes deliveries)).verdict.outcome.leftover := by
  obtain ⟨chunks, bytes, eq⟩ := deliver_eq_feedAll answer deliveries
  have silent := message?_deliver answer deliveries
  rw [eq] at silent ⊢
  rw [← bytes]
  exact feedAll_agrees settled silent

end Handshake

end ProxyRouting.Socks5
