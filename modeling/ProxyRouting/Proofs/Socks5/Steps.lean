import ProxyRouting.Proofs.Socks5.Calls
import ProxyRouting.Proofs.Socks5.Grammar

/-!
# Steps of a handshake

What one call comes to is fixed by how the handshake stands. `Step` lists the ways: the call fails
or is refused, a new handshake greets, and one that waits for an answer waits on, moves to the next
stage with a message, or opens the tunnel. `step_answer` says that there are no others.

`Moves` are the answers that lead from one stage to the next, and the messages sent because of
them.
-/

namespace ProxyRouting.Socks5

/-- The message with which a handshake goes on after a good answer, and the stage after it. -/
inductive Moves (credentials : Option Credentials) (target : HostPort) :
    Stage → Bytes → Bytes → Stage → Prop
  /-- No authentication is asked for. -/
  | plain {request : Bytes} : connectRequest? target = some request →
      Moves credentials target .greeting [version, methodNone] request .connecting
  /-- The user and password are asked for. -/
  | password {c : Credentials} : credentials = some c →
      Moves credentials target .greeting [version, methodPassword] (authenticationRequest c)
        .authenticating
  /-- They are accepted. -/
  | accepted {request : Bytes} : connectRequest? target = some request →
      Moves credentials target .authenticating [Socks5.authenticationVersion, 0] request
        .connecting

/-- Whether nothing more is to come: the negotiation failed, or the tunnel is open. -/
def Outcome.isFinal : Outcome → Bool
  | .needMore => false
  | .emit _ => false
  | .done _ => true
  | .failed _ => true

namespace Handshake

variable {h : Handshake}

/-- All messages of the handshake can be made up. -/
structure Equipped (h : Handshake) (request : Bytes) : Prop where
  /-- The user and password fit their length bytes. -/
  fits : h.credentialsFit = true
  /-- There is a CONNECT request for the target. -/
  encodes : connectRequest? h.target = some request

theorem credentialsFit_iff : h.credentialsFit = true ↔ ∀ c, h.credentials = some c →
    c.username.length ≤ maxFieldLength ∧ c.password.length ≤ maxFieldLength := by
  unfold credentialsFit
  cases h.credentials with
  | none => simp
  | some c => simp

theorem Over.ne_idle (isOver : h.Over) : h.phase ≠ .idle := by
  rcases isOver with phase | ⟨_, phase⟩ <;> rw [phase] <;> exact Phase.noConfusion

theorem Over.ne_waiting (isOver : h.Over) (stage : Stage) (held : Bytes) :
    h.phase ≠ .waiting stage held := by
  rcases isOver with phase | ⟨_, phase⟩ <;> rw [phase] <;> exact Phase.noConfusion

/-! ### Answers of the server -/

/-- The CONNECT request is sent if there is one. -/
theorem emitConnect_moves {stage : Stage} {answer : Bytes} (rest : Bytes)
    (moves : ∀ request, connectRequest? h.target = some request →
      Moves h.credentials h.target stage answer request .connecting) :
    (∃ error, h.emitConnect rest = h.fail error) ∨
      ∃ message, Moves h.credentials h.target stage answer message .connecting ∧
        h.emitConnect rest = h.emit message .connecting rest := by
  unfold emitConnect
  split
  · next request encodes => exact Or.inr ⟨request, moves request encodes, rfl⟩
  · exact Or.inl ⟨_, rfl⟩

/-- **What the bytes of an answer lead to**: the handshake waits for more, fails, moves to the next
stage with a message, or has an open tunnel after the CONNECT reply. -/
theorem receive_moves (h : Handshake) (stage : Stage) (bytes : Bytes) :
    h.receive stage bytes = h.needMore stage bytes ∨
      (∃ error, h.receive stage bytes = h.fail error) ∨
      (∃ answer message next rest, Moves h.credentials h.target stage answer message next ∧
        bytes = answer ++ rest ∧ h.receive stage bytes = h.emit message next rest) ∨
      stage = .connecting ∧
        ∃ rest, h.receive stage bytes = (.done rest, { h with phase := .established }) := by
  cases stage with
  | greeting =>
    rcases scan : scanMethod bytes with _ | error | ⟨_ | _, rest⟩
    · exact Or.inl (by simp only [receive, receiveMethod, scan])
    · exact Or.inr (Or.inl ⟨error, by simp only [receive, receiveMethod, scan]⟩)
    · simp only [receive, receiveMethod, scan]
      rcases emitConnect_moves rest fun _ => .plain with fails | ⟨message, moves, eq⟩
      · exact Or.inr (Or.inl fails)
      · exact Or.inr (Or.inr (Or.inl ⟨_, message, _, rest, moves, eq_of_scanMethod scan, eq⟩))
    · cases has : h.credentials with
      | none => exact Or.inr (Or.inl ⟨_, by simp only [receive, receiveMethod, scan, has]; rfl⟩)
      | some c =>
        refine Or.inr (Or.inr (Or.inl ⟨_, _, _, rest, .password rfl, eq_of_scanMethod scan, ?_⟩))
        simp only [receive, receiveMethod, scan, has]
  | authenticating =>
    rcases scan : scanAuthentication bytes with _ | error | ⟨_, rest⟩
    · exact Or.inl (by simp only [receive, receiveVerdict, scan])
    · exact Or.inr (Or.inl ⟨error, by simp only [receive, receiveVerdict, scan]⟩)
    · simp only [receive, receiveVerdict, scan]
      rcases emitConnect_moves rest fun _ => .accepted with fails | ⟨message, moves, eq⟩
      · exact Or.inr (Or.inl fails)
      · exact Or.inr (Or.inr (Or.inl
          ⟨_, message, _, rest, moves, eq_of_scanAuthentication scan, eq⟩))
  | connecting =>
    rcases scan : scanConnect h.target bytes with _ | error | ⟨_, rest⟩
    · exact Or.inl (by simp only [receive, receiveReply, scan])
    · exact Or.inr (Or.inl ⟨error, by simp only [receive, receiveReply, scan]⟩)
    · exact Or.inr (Or.inr (Or.inr ⟨rfl, rest, by simp only [receive, receiveReply, scan]⟩))

/-! ### Calls -/

/-- What a call comes to. -/
inductive Step (h : Handshake) : Call → Outcome × Handshake → Prop
  /-- The call fails or is refused. -/
  | fails {call : Call} {error : Error} {next : Handshake} : next.Over →
      next.target = h.target → next.credentials = h.credentials →
      Step h call (.failed error, next)
  /-- A new handshake whose messages can all be made up greets. -/
  | greets {request : Bytes} : h.phase = .idle → h.Equipped request →
      Step h .start (.emit (greeting h.credentials.isSome), h.awaiting .greeting)
  /-- The answer is not complete yet. -/
  | waits {stage : Stage} {held bytes : Bytes} : h.phase = .waiting stage held →
      Step h (.feed bytes) (h.needMore stage (held ++ bytes))
  /-- A good answer leads to the next message. -/
  | moves {stage next : Stage} {held bytes answer message rest : Bytes} :
      h.phase = .waiting stage held →
      Moves h.credentials h.target stage answer message next → held ++ bytes = answer ++ rest →
      Step h (.feed bytes) (h.emit message next rest)
  /-- A good CONNECT reply opens the tunnel. -/
  | opens {held bytes rest : Bytes} : h.phase = .waiting .connecting held →
      Step h (.feed bytes) (.done rest, { h with phase := .established })

theorem Step.fail (h : Handshake) (call : Call) (error : Error) : Step h call (h.fail error) :=
  .fails (h.over_fail error) rfl rfl

/-- **There is no other way for a call.** -/
theorem step_answer (h : Handshake) (call : Call) : Step h call (h.answer call) := by
  have refused (isOver : h.Over) : Step h call (h.answer call) := by
    cases call with
    | start =>
      rw [isOver.answer_start]
      exact .fail h .start .alreadyStarted
    | feed bytes =>
      rw [isOver.answer_feed]
      exact .fails isOver rfl rfl
  cases phase : h.phase with
  | established => exact refused (Or.inl phase)
  | failed error => exact refused (Or.inr ⟨error, phase⟩)
  | idle =>
    cases call with
    | start =>
      rcases h.start_cases phase with ⟨request, encodes, fits, emits⟩ | ⟨error, failed⟩
      · rw [answer, emits]
        exact .greets phase ⟨fits, encodes⟩
      · rw [answer, failed]
        exact .fail h .start error
    | feed bytes =>
      rw [answer, Handshake.feed, phase]
      exact .fail h (.feed bytes) .notStarted
  | waiting stage held =>
    cases call with
    | start =>
      rw [answer, start, phase]
      exact .fail h .start .alreadyStarted
    | feed bytes =>
      rw [answer, Handshake.feed, phase]
      dsimp only
      rcases h.receive_moves stage (held ++ bytes) with eq | ⟨error, eq⟩ |
        ⟨answer, message, next, rest, moves, split, eq⟩ | ⟨rfl, rest, eq⟩
      · rw [eq]
        exact .waits phase
      · rw [eq]
        exact .fail h (.feed bytes) error
      · rw [eq]
        exact .moves phase moves split
      · rw [eq]
        exact .opens phase

/-- No call changes what is negotiated for whom. -/
theorem Step.configuration {call : Call} {result : Outcome × Handshake}
    (step : Step h call result) :
    result.2.target = h.target ∧ result.2.credentials = h.credentials := by
  cases step with
  | fails _ target credentials => exact ⟨target, credentials⟩
  | _ => exact ⟨rfl, rfl⟩

theorem configuration_run (h : Handshake) (calls : List Call) :
    (h.run calls).target = h.target ∧ (h.run calls).credentials = h.credentials := by
  induction calls generalizing h with
  | nil => exact ⟨rfl, rfl⟩
  | cons call rest ih =>
    obtain ⟨target, credentials⟩ := (h.step_answer call).configuration
    rw [run_cons, ← target, ← credentials]
    exact ih _

/-- A handshake that has just failed or opened its tunnel is over. -/
theorem Step.over {call : Call} {result : Outcome × Handshake} (step : Step h call result)
    (ends : result.1.isFinal = true) : result.2.Over := by
  cases step with
  | fails isOver _ _ => exact isOver
  | opens _ => exact Or.inl rfl
  | greets _ _ => cases ends
  | waits _ => cases ends
  | moves _ _ _ => cases ends

end Handshake

end ProxyRouting.Socks5
