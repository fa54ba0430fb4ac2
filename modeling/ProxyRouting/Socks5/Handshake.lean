import ProxyRouting.Socks5.Reply

/-!
# The SOCKS5 negotiation

A handshake negotiates a tunnel to a target over a connection that somebody else
owns. It does no input or output: `start` gives the first message to send, and `feed`
takes the bytes that have come in and tells what to do next. One call handles at
most one message of the server, so after a message to send the buffer may hold
another answer already; feeding no bytes goes on with it.

Bytes are held back only while the handshake waits for the rest of a message.
-/

namespace ProxyRouting.Socks5

/-- The answer that a started handshake waits for. -/
inductive Stage where
  /-- The choice of a method. -/
  | greeting
  /-- The verdict on the user and password. -/
  | authenticating
  /-- The reply to the CONNECT request. -/
  | connecting
  deriving DecidableEq, Repr

/-- How far a handshake is. -/
inductive Phase where
  /-- Not started. -/
  | idle
  /-- Waiting for an answer of which these bytes have come in. -/
  | waiting (stage : Stage) (buffer : Bytes)
  /-- The tunnel is open. -/
  | established
  /-- It failed. -/
  | failed (error : Error)
  deriving DecidableEq, Repr

/-- The negotiation of a tunnel to a target. -/
structure Handshake where
  /-- The far end of the tunnel. -/
  target : HostPort
  /-- The user and password for the server. -/
  credentials : Option Credentials
  /-- How far it is. -/
  phase : Phase := .idle
  deriving DecidableEq, Repr

/-- What a call asks of the owner of the connection. -/
inductive Outcome where
  /-- Wait for more bytes. -/
  | needMore
  /-- Send a message. -/
  | emit (message : Bytes)
  /-- The tunnel is open; the bytes came in behind the last answer. -/
  | done (leftover : Bytes)
  /-- The negotiation is over. -/
  | failed (error : Error)
  deriving DecidableEq, Repr

namespace Handshake

/-! ### Views -/

/-- The bytes held back. -/
def buffer (h : Handshake) : Bytes :=
  match h.phase with
  | .waiting _ bytes => bytes
  | _ => []

/-- How many bytes are held back. -/
def buffered (h : Handshake) : Nat := h.buffer.length

/-- The cause of the failure, if it failed. -/
def error? (h : Handshake) : Option Error :=
  match h.phase with
  | .failed error => some error
  | _ => none

/-! ### Ways to end a call -/

/-- The handshake fails. -/
def fail (h : Handshake) (error : Error) : Outcome × Handshake :=
  (.failed error, { h with phase := .failed error })

/-- The handshake waits for more bytes of an answer. -/
def needMore (h : Handshake) (stage : Stage) (buffer : Bytes) : Outcome × Handshake :=
  (.needMore, { h with phase := .waiting stage buffer })

/-- A message is to be sent, and the handshake waits for the answer to it. -/
def emit (h : Handshake) (message : Bytes) (stage : Stage) (buffer : Bytes) :
    Outcome × Handshake :=
  (.emit message, { h with phase := .waiting stage buffer })

/-- The CONNECT request is to be sent. -/
def emitConnect (h : Handshake) (buffer : Bytes) : Outcome × Handshake :=
  match connectRequest? h.target with
  | some message => h.emit message .connecting buffer
  | none => h.fail (.unencodableHost h.target.host)

/-! ### The calls -/

/-- Whether the user and password fit their length bytes. -/
def credentialsFit (h : Handshake) : Bool :=
  match h.credentials with
  | some c => c.username.length ≤ maxFieldLength && c.password.length ≤ maxFieldLength
  | none => true

/-- Begins the negotiation. -/
def start (h : Handshake) : Outcome × Handshake :=
  match h.phase with
  | .idle =>
    if !h.credentialsFit then h.fail .credentialsTooLong
    else
      match connectRequest? h.target with
      | none => h.fail (.unencodableHost h.target.host)
      | some _ => h.emit (greeting h.credentials.isSome) .greeting []
  | _ => h.fail .alreadyStarted

/-- Handles the bytes of the method reply. -/
def receiveMethod (h : Handshake) (bytes : Bytes) : Outcome × Handshake :=
  match scanMethod bytes with
  | .incomplete => h.needMore .greeting bytes
  | .invalid error => h.fail error
  | .complete .none rest => h.emitConnect rest
  | .complete .password rest =>
    match h.credentials with
    | some credentials => h.emit (authenticationRequest credentials) .authenticating rest
    | none => h.fail .credentialsRequired

/-- Handles the bytes of the authentication reply. -/
def receiveVerdict (h : Handshake) (bytes : Bytes) : Outcome × Handshake :=
  match scanAuthentication bytes with
  | .incomplete => h.needMore .authenticating bytes
  | .invalid error => h.fail error
  | .complete () rest => h.emitConnect rest

/-- Handles the bytes of the CONNECT reply. -/
def receiveReply (h : Handshake) (bytes : Bytes) : Outcome × Handshake :=
  match scanConnect h.target bytes with
  | .incomplete => h.needMore .connecting bytes
  | .invalid error => h.fail error
  | .complete () rest => (.done rest, { h with phase := .established })

/-- Handles the bytes received for an answer. -/
def receive (h : Handshake) (stage : Stage) (bytes : Bytes) : Outcome × Handshake :=
  match stage with
  | .greeting => h.receiveMethod bytes
  | .authenticating => h.receiveVerdict bytes
  | .connecting => h.receiveReply bytes

/-- Handles bytes that have come in. -/
def feed (h : Handshake) (bytes : Bytes) : Outcome × Handshake :=
  match h.phase with
  | .idle => h.fail .notStarted
  | .waiting stage buffer => h.receive stage (buffer ++ bytes)
  | .established => (.failed .alreadyEstablished, h)
  | .failed error => (.failed error, h)

/-! ### Bytes held back after a call -/

theorem buffered_emitConnect (h : Handshake) (rest : Bytes) :
    (h.emitConnect rest).2.buffered ≤ rest.length := by
  unfold emitConnect
  split <;> simp [emit, fail, buffered, buffer]

/-- No outcome of `emitConnect` waits for bytes before the request is sent. -/
theorem emitConnect_ne_needMore (h : Handshake) (rest : Bytes) :
    (h.emitConnect rest).1 ≠ .needMore := by
  unfold emitConnect
  split <;> simp [emit, fail]

/-- The bytes held back after a call that handled these bytes: all of them if more are
needed, and at least two fewer when there is a message to send, as the answer before it is
gone. -/
def Keeps (bytes : Bytes) (result : Outcome × Handshake) : Prop :=
  (result.1 = .needMore → result.2.buffered = bytes.length) ∧
    ∀ message, result.1 = .emit message → result.2.buffered + 2 ≤ bytes.length

theorem keeps_needMore (h : Handshake) (stage : Stage) (bytes : Bytes) :
    Keeps bytes (h.needMore stage bytes) :=
  ⟨fun _ => rfl, fun _ emitted => by cases emitted⟩

theorem keeps_fail (h : Handshake) (error : Error) (bytes : Bytes) :
    Keeps bytes (h.fail error) :=
  ⟨fun waits => (by cases waits), fun _ emitted => by cases emitted⟩

theorem keeps_emitConnect (h : Handshake) {bytes rest : Bytes}
    (length : rest.length + 2 = bytes.length) : Keeps bytes (h.emitConnect rest) :=
  ⟨fun waits => absurd waits (h.emitConnect_ne_needMore rest),
    fun _ _ => by have := h.buffered_emitConnect rest; omega⟩

theorem keeps_receive (h : Handshake) (stage : Stage) (bytes : Bytes) :
    Keeps bytes (h.receive stage bytes) := by
  cases stage with
  | greeting =>
    simp only [receive, receiveMethod]
    split
    · exact h.keeps_needMore .greeting bytes
    · exact h.keeps_fail _ bytes
    · next scan => exact h.keeps_emitConnect (length_of_scanMethod scan)
    · next rest scan =>
      have length := length_of_scanMethod scan
      split
      · refine ⟨fun waits => (by cases waits), fun _ _ => ?_⟩
        simp only [emit, buffered, buffer]
        omega
      · exact h.keeps_fail _ bytes
  | authenticating =>
    simp only [receive, receiveVerdict]
    split
    · exact h.keeps_needMore .authenticating bytes
    · exact h.keeps_fail _ bytes
    · next scan => exact h.keeps_emitConnect (length_of_scanAuthentication scan)
  | connecting =>
    simp only [receive, receiveReply]
    split
    · exact h.keeps_needMore .connecting bytes
    · exact h.keeps_fail _ bytes
    · exact ⟨fun waits => (by cases waits), fun _ emitted => by cases emitted⟩

/-- Feeding bytes handles them behind those held back. -/
theorem keeps_feed (h : Handshake) (bytes : Bytes) :
    Keeps (h.buffer ++ bytes) (h.feed bytes) := by
  unfold feed
  split
  · exact h.keeps_fail _ _
  · next stage held phase =>
    have held_eq : h.buffer = held := by simp [buffer, phase]
    rw [held_eq]
    exact h.keeps_receive stage _
  · exact ⟨fun waits => (by cases waits), fun _ emitted => by cases emitted⟩
  · exact ⟨fun waits => (by cases waits), fun _ emitted => by cases emitted⟩

theorem buffered_feed_of_emit {h : Handshake} {bytes message : Bytes}
    (emitted : (h.feed bytes).1 = .emit message) :
    (h.feed bytes).2.buffered + 2 ≤ h.buffered + bytes.length := by
  have := (h.keeps_feed bytes).2 message emitted
  rwa [List.length_append] at this

theorem buffered_feed_of_needMore {h : Handshake} {bytes : Bytes}
    (waits : (h.feed bytes).1 = .needMore) :
    (h.feed bytes).2.buffered = h.buffered + bytes.length := by
  have := (h.keeps_feed bytes).1 waits
  rwa [List.length_append] at this

/-- A handshake that was just started holds nothing back. -/
theorem buffered_start_of_idle {h : Handshake} (idle : h.phase = .idle) :
    h.start.2.buffered = 0 := by
  unfold start
  simp only [idle]
  split
  · simp [fail, buffered, buffer]
  · split <;> simp [fail, emit, buffered, buffer]

end Handshake

end ProxyRouting.Socks5
