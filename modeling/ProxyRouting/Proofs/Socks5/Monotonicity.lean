import Mathlib.Tactic.ByContra
import Mathlib.Tactic.SplitIfs
import ProxyRouting.Socks5.Handshake

/-!
# Verdicts do not change when more bytes arrive

A handshake looks at the bytes that have come in so far. As soon as they are enough for a
verdict, more bytes behind them do not change it: they are left over behind the message, or
they are of no interest after an error. While they are too few, nothing is consumed.

Both together make it a matter of indifference whether bytes come in one by one or at once:
`feed_append` and `feed_append_of_needMore` say what feeding `x ++ y` comes to in terms of
feeding `x` first.
-/

namespace ProxyRouting.Socks5

/-! ### Scans -/

variable {α : Type}

/-- The same result of a scan, with more bytes behind those that were looked at. -/
def Scan.extend (more : Bytes) : Scan α → Scan α
  | .incomplete => .incomplete
  | .invalid error => .invalid error
  | .complete value rest => .complete value (rest ++ more)

theorem scanMethod_append {bytes : Bytes} (more : Bytes) (h : scanMethod bytes ≠ .incomplete) :
    scanMethod (bytes ++ more) = (scanMethod bytes).extend more := by
  match bytes with
  | [] | [_] => exact absurd rfl h
  | v :: method :: rest =>
    simp only [List.cons_append, scanMethod]
    split_ifs <;> rfl

theorem scanAuthentication_append {bytes : Bytes} (more : Bytes)
    (h : scanAuthentication bytes ≠ .incomplete) :
    scanAuthentication (bytes ++ more) = (scanAuthentication bytes).extend more := by
  match bytes with
  | [] | [_] => exact absurd rfl h
  | v :: status :: rest =>
    simp only [List.cons_append, scanAuthentication]
    split_ifs <;> rfl

theorem skip_append {count : Nat} {rest : Bytes} (more : Bytes)
    (h : skip count rest ≠ .incomplete) :
    skip count (rest ++ more) = (skip count rest).extend more := by
  have enough : count ≤ rest.length := by
    by_contra few
    exact h (if_pos (by omega))
  have still : ¬ (rest ++ more).length < count := by
    rw [List.length_append]
    omega
  rw [skip, skip, if_neg still, if_neg (by omega), List.drop_append_of_le_length enough]
  rfl

theorem scanBound_append {kind : UInt8} {rest : Bytes} (more : Bytes)
    (h : scanBound kind rest ≠ .incomplete) :
    scanBound kind (rest ++ more) = (scanBound kind rest).extend more := by
  unfold scanBound at *
  split_ifs at * with ipv4 ipv6 domain
  · exact skip_append more h
  · exact skip_append more h
  · cases rest with
    | nil => exact absurd rfl h
    | cons length rest => exact skip_append more h
  · rfl

theorem scanConnect_append {target : HostPort} {bytes : Bytes} (more : Bytes)
    (h : scanConnect target bytes ≠ .incomplete) :
    scanConnect target (bytes ++ more) = (scanConnect target bytes).extend more := by
  match bytes with
  | [] | [_] | [_, _] | [_, _, _] => exact absurd rfl h
  | v :: code :: reserved :: kind :: rest =>
    simp only [List.cons_append, scanConnect] at *
    split_ifs at * with version code reserved
    · rfl
    · rfl
    · rfl
    · exact scanBound_append more h

/-! ### Handshakes -/

/-- The same outcome, with more bytes behind those that were fed. -/
def Outcome.extend (more : Bytes) : Outcome → Outcome
  | .done leftover => .done (leftover ++ more)
  | outcome => outcome

namespace Handshake

/-- The handshake with more bytes held back, if it waits for some. -/
def extend (more : Bytes) (h : Handshake) : Handshake :=
  match h.phase with
  | .waiting stage buffer => { h with phase := .waiting stage (buffer ++ more) }
  | _ => h

/-- The bytes held back and those fed are looked at as one. -/
theorem feed_extend (h : Handshake) (x y : Bytes) : (h.extend x).feed y = h.feed (x ++ y) := by
  obtain ⟨target, credentials, phase⟩ := h
  cases phase with
  | waiting stage buffer =>
    simp only [extend, feed, List.append_assoc]
    cases stage <;> rfl
  | idle => rfl
  | established => rfl
  | failed error => rfl

/-- What a call answers, with more bytes behind those that it handled. -/
def extendAnswer (more : Bytes) (answer : Outcome × Handshake) : Outcome × Handshake :=
  (answer.1.extend more, answer.2.extend more)

theorem emitConnect_append (h : Handshake) (rest more : Bytes) :
    h.emitConnect (rest ++ more) = extendAnswer more (h.emitConnect rest) := by
  unfold emitConnect
  split <;> rfl

theorem receive_append {h : Handshake} {stage : Stage} {bytes : Bytes} (more : Bytes)
    (decided : (h.receive stage bytes).1 ≠ .needMore) :
    h.receive stage (bytes ++ more) = extendAnswer more (h.receive stage bytes) := by
  cases stage with
  | greeting =>
    have enough : scanMethod bytes ≠ .incomplete := by
      intro incomplete
      simp only [receive, receiveMethod, incomplete] at decided
      exact decided rfl
    simp only [receive, receiveMethod, scanMethod_append more enough]
    rcases scan : scanMethod bytes with _ | error | ⟨method, rest⟩
    · exact absurd scan enough
    · rfl
    · cases method with
      | none => exact h.emitConnect_append rest more
      | password =>
        simp only [Scan.extend]
        cases h.credentials <;> rfl
  | authenticating =>
    have enough : scanAuthentication bytes ≠ .incomplete := by
      intro incomplete
      simp only [receive, receiveVerdict, incomplete] at decided
      exact decided rfl
    simp only [receive, receiveVerdict, scanAuthentication_append more enough]
    rcases scan : scanAuthentication bytes with _ | error | ⟨_, rest⟩
    · exact absurd scan enough
    · rfl
    · exact h.emitConnect_append rest more
  | connecting =>
    have enough : scanConnect h.target bytes ≠ .incomplete := by
      intro incomplete
      simp only [receive, receiveReply, incomplete] at decided
      exact decided rfl
    simp only [receive, receiveReply, scanConnect_append more enough]
    rcases scan : scanConnect h.target bytes with _ | error | ⟨_, rest⟩
    · exact absurd scan enough
    · rfl
    · rfl

/-- What is called with the CONNECT request at hand either sends it or fails. -/
theorem emitConnect_cases (h : Handshake) (rest : Bytes) :
    (∃ error, h.emitConnect rest = h.fail error) ∨
      ∃ message, h.emitConnect rest = h.emit message .connecting rest := by
  unfold emitConnect
  split
  · exact Or.inr ⟨_, rfl⟩
  · exact Or.inl ⟨_, rfl⟩

/-- **The four ways to answer**: the handshake waits for more bytes, fails, has a message to
send, or is done. -/
theorem receive_cases (h : Handshake) (stage : Stage) (bytes : Bytes) :
    h.receive stage bytes = h.needMore stage bytes ∨
      (∃ error, h.receive stage bytes = h.fail error) ∨
      (∃ message next rest, h.receive stage bytes = h.emit message next rest) ∨
      ∃ rest, h.receive stage bytes = (.done rest, { h with phase := .established }) := by
  have request (rest : Bytes) := h.emitConnect_cases rest
  cases stage with
  | greeting =>
    simp only [receive, receiveMethod]
    split
    · exact Or.inl rfl
    · exact Or.inr (Or.inl ⟨_, rfl⟩)
    · next rest _ =>
      rcases request rest with ⟨error, eq⟩ | ⟨message, eq⟩
      · exact Or.inr (Or.inl ⟨error, eq⟩)
      · exact Or.inr (Or.inr (Or.inl ⟨message, _, rest, eq⟩))
    · split
      · exact Or.inr (Or.inr (Or.inl ⟨_, _, _, rfl⟩))
      · exact Or.inr (Or.inl ⟨_, rfl⟩)
  | authenticating =>
    simp only [receive, receiveVerdict]
    split
    · exact Or.inl rfl
    · exact Or.inr (Or.inl ⟨_, rfl⟩)
    · next rest _ =>
      rcases request rest with ⟨error, eq⟩ | ⟨message, eq⟩
      · exact Or.inr (Or.inl ⟨error, eq⟩)
      · exact Or.inr (Or.inr (Or.inl ⟨message, _, rest, eq⟩))
  | connecting =>
    simp only [receive, receiveReply]
    split
    · exact Or.inl rfl
    · exact Or.inr (Or.inl ⟨_, rfl⟩)
    · exact Or.inr (Or.inr (Or.inr ⟨_, rfl⟩))

/-- **A verdict stays**: what came of some bytes comes of all that begin with them. -/
theorem feed_append {h : Handshake} {x : Bytes} (y : Bytes) (decided : (h.feed x).1 ≠ .needMore) :
    h.feed (x ++ y) = extendAnswer y (h.feed x) := by
  obtain ⟨target, credentials, phase⟩ := h
  cases phase with
  | waiting stage buffer =>
    simp only [feed] at *
    rw [← List.append_assoc]
    exact receive_append y decided
  | idle => rfl
  | established => rfl
  | failed error => rfl

/-- The handshake no longer negotiates: the tunnel is established, or it failed. -/
def Over (h : Handshake) : Prop := h.phase = .established ∨ ∃ error, h.phase = .failed error

/-- A handshake that is over answers every call with one error and stays as it is. -/
theorem Over.feed {h : Handshake} (isOver : h.Over) :
    ∃ error, ∀ bytes, h.feed bytes = (.failed error, h) := by
  obtain ⟨target, credentials, phase⟩ := h
  rcases isOver with rfl | ⟨error, rfl⟩
  · exact ⟨.alreadyEstablished, fun _ => rfl⟩
  · exact ⟨error, fun _ => rfl⟩

theorem Over.extend {h : Handshake} (isOver : h.Over) (more : Bytes) : h.extend more = h := by
  obtain ⟨target, credentials, phase⟩ := h
  rcases isOver with rfl | ⟨error, rfl⟩ <;> rfl

/-- The handshake waits for an answer. -/
def InNegotiation (h : Handshake) : Prop := ∃ stage held, h.phase = .waiting stage held

theorem InNegotiation.extend {h : Handshake} (waits : h.InNegotiation) (more : Bytes) :
    (h.extend more).InNegotiation := by
  obtain ⟨stage, held, phase⟩ := waits
  refine ⟨stage, held ++ more, ?_⟩
  simp only [Handshake.extend, phase]

/-- What feeding comes to: the handshake holds the bytes back, is over with an error or
with an open tunnel, or has a message to send and waits for the answer to it. -/
theorem feed_cases (h : Handshake) (bytes : Bytes) :
    h.feed bytes = (.needMore, h.extend bytes) ∨
      (∃ error next, h.feed bytes = (.failed error, next) ∧ next.Over) ∨
      (∃ message next, h.feed bytes = (.emit message, next) ∧ next.InNegotiation) ∨
      ∃ leftover next, h.feed bytes = (.done leftover, next) ∧ next.phase = .established := by
  obtain ⟨target, credentials, phase⟩ := h
  cases phase with
  | waiting stage buffer =>
    rcases receive_cases ⟨target, credentials, .waiting stage buffer⟩ stage (buffer ++ bytes) with
      eq | ⟨error, eq⟩ | ⟨message, next, rest, eq⟩ | ⟨rest, eq⟩
    · exact Or.inl eq
    · exact Or.inr (Or.inl ⟨error, _, eq, Or.inr ⟨error, rfl⟩⟩)
    · exact Or.inr (Or.inr (Or.inl ⟨message, _, eq, next, rest, rfl⟩))
    · exact Or.inr (Or.inr (Or.inr ⟨rest, _, eq, rfl⟩))
  | idle => exact Or.inr (Or.inl ⟨_, _, rfl, Or.inr ⟨_, rfl⟩⟩)
  | established => exact Or.inr (Or.inl ⟨_, _, rfl, Or.inl rfl⟩)
  | failed error => exact Or.inr (Or.inl ⟨_, _, rfl, Or.inr ⟨_, rfl⟩⟩)

/-- The handshake when it waits for an answer of which nothing has come in. -/
def awaiting (h : Handshake) (stage : Stage) : Handshake := { h with phase := .waiting stage [] }

/-- What starting comes to: the handshake has a greeting to send, and its target can be encoded
and its user and password fit, or it failed. -/
theorem start_cases {h : Handshake} (idle : h.phase = .idle) :
    (∃ request, connectRequest? h.target = some request ∧ h.credentialsFit = true ∧
        h.start = (.emit (greeting h.credentials.isSome), h.awaiting .greeting)) ∨
      ∃ error, h.start = h.fail error := by
  unfold start
  rw [idle]
  dsimp only
  cases fit : h.credentialsFit with
  | false => exact Or.inr ⟨_, rfl⟩
  | true =>
    cases connectRequest? h.target with
    | none => exact Or.inr ⟨_, rfl⟩
    | some request => exact Or.inl ⟨request, rfl, rfl, rfl⟩

/-- A handshake whose messages can all be made up has a greeting to send. -/
theorem start_of_fits {h : Handshake} {request : Bytes} (idle : h.phase = .idle)
    (fits : h.credentialsFit = true) (encodes : connectRequest? h.target = some request) :
    h.start = (.emit (greeting h.credentials.isSome), h.awaiting .greeting) := by
  simp only [start, idle, fits, encodes]
  rfl

/-- While more bytes are needed, those fed are held back behind the others. -/
theorem feed_of_needMore {h : Handshake} {x : Bytes} (waits : (h.feed x).1 = .needMore) :
    h.feed x = (.needMore, h.extend x) := by
  rcases h.feed_cases x with eq | ⟨_, _, eq, -⟩ | ⟨_, _, eq, -⟩ | ⟨_, _, eq, -⟩
  · exact eq
  · rw [eq] at waits
    cases waits
  · rw [eq] at waits
    cases waits
  · rw [eq] at waits
    cases waits

/-- **Waiting loses nothing**: the bytes that come later are looked at with the earlier ones. -/
theorem feed_append_of_needMore {h : Handshake} {x : Bytes} (y : Bytes)
    (waits : (h.feed x).1 = .needMore) : h.feed (x ++ y) = (h.feed x).2.feed y := by
  rw [feed_of_needMore waits, feed_extend]

end Handshake

end ProxyRouting.Socks5
