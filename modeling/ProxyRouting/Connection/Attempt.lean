import ProxyRouting.Router
import ProxyRouting.Socks5.Handshake

/-!
# Opening a connection

An attempt opens the connection that a decision points at: the proxy's host is
resolved, a connection to it is made, and if the scheme is that of a tunnel, the tunnel to
the target is negotiated. One operation of the network is pending at a time. What an
operation has come to leads to the next one or to the end of the attempt, and each end is
reported in one line.

Each step either ends the attempt or makes its `remaining` work smaller, but for the bytes
that a read brings in.
-/

namespace ProxyRouting.Connection

open Socks5 (Handshake Outcome)

/-! ### Attempts and their ends -/

/-- What a connection is opened for. -/
structure Attempt where
  /-- The name of the proxy. -/
  proxy : Bytes
  /-- Where the proxy is. -/
  via : Address
  /-- The far end of the connection. -/
  target : HostPort
  /-- The user and password for the tunnel. -/
  credentials : Option Credentials
  deriving DecidableEq, Repr

/-- The attempt to open the connection of a decision. -/
def Attempt.ofDecision (decision : Decision) (target : HostPort) : Attempt where
  proxy := decision.proxy.name
  via := decision.via
  target := target
  credentials := decision.tunnelCredentials?

/-- Why no connection was opened; the texts are the network's. -/
inductive Error where
  /-- The proxy's host could not be resolved. -/
  | resolve (message : Bytes)
  /-- The proxy's host has no address. -/
  | noEndpoints
  /-- No connection to the proxy could be made. -/
  | connect (message : Bytes)
  /-- A message could not be sent. -/
  | write (message : Bytes)
  /-- Nothing could be received. -/
  | read (message : Bytes)
  /-- The proxy closed the connection. -/
  | closed
  /-- The tunnel was not established. -/
  | handshake (error : Socks5.Error)
  deriving DecidableEq, Repr

/-- The text of an error, with the address of the proxy. -/
def Error.message (via : Address) : Error → Bytes
  | resolve message => ascii "resolve error for " ++ via.text ++ ascii ": " ++ message
  | noEndpoints => ascii "resolve returned no endpoints for " ++ via.text
  | connect message => ascii "connect error to " ++ via.text ++ ascii ": " ++ message
  | write message => ascii "write to " ++ via.text ++ ascii " failed: " ++ message
  | read message => ascii "read from " ++ via.text ++ ascii " failed: " ++ message
  | closed =>
    ascii "upstream " ++ via.text ++ ascii " closed the connection during the SOCKS5 handshake"
  | handshake error => error.message

/-- How an attempt ends. -/
inductive Ending where
  /-- The connection is open; the bytes came in behind the negotiation. -/
  | opened (leftover : Bytes)
  /-- There is no connection. -/
  | failed (error : Error)
  deriving DecidableEq, Repr

/-- Whether the connection is open. -/
def Ending.isOpen : Ending → Bool
  | opened _ => true
  | failed _ => false

/-- What is handed to whoever asked for the connection. -/
structure Result where
  /-- Whether the attempt succeeded. -/
  ok : Bool
  /-- The text of the error, empty if there is none. -/
  error : Bytes
  /-- The bytes that came in behind the negotiation. -/
  leftover : Bytes
  /-- Whether the socket is open. -/
  socketOpen : Bool
  deriving DecidableEq, Repr

/-- The result of an attempt that ended. After a failure the socket is closed. -/
def Attempt.result (a : Attempt) : Ending → Result
  | .opened leftover => ⟨true, [], leftover, true⟩
  | .failed error => ⟨false, error.message a.via, [], false⟩

/-- The line that reports an end. -/
def Attempt.report (a : Attempt) : Ending → Bytes
  | .opened _ =>
    ascii "[connector] Connected to " ++ a.target.text ++ ascii " via " ++ a.proxy ++
      ascii " (" ++ a.via.text ++ ascii ")\n"
  | .failed error =>
    ascii "[connector] " ++ a.target.text ++ ascii " via " ++ a.proxy ++ ascii ": " ++
      error.message a.via ++ ascii "\n"

/-! ### Steps -/

/-- The operation that an attempt waits for. -/
inductive Pending where
  /-- The resolution of the proxy's host. -/
  | resolve
  /-- The connection to the proxy. -/
  | connect
  /-- The sending of a message of a handshake. -/
  | write (message : Bytes) (handshake : Handshake)
  /-- The arrival of bytes for a handshake. -/
  | read (handshake : Handshake)
  deriving DecidableEq, Repr

/-- What follows an operation. -/
inductive Progress where
  /-- Another operation. -/
  | waiting (pending : Pending)
  /-- The end of the attempt. -/
  | finished (ending : Ending)
  deriving DecidableEq, Repr

/-- What follows a call of the handshake. -/
def Progress.ofOutcome : Outcome × Handshake → Progress
  | (.emit message, handshake) => .waiting (.write message handshake)
  | (.needMore, handshake) => .waiting (.read handshake)
  | (.done leftover, _) => .finished (.opened leftover)
  | (.failed error, _) => .finished (.failed (.handshake error))

namespace Attempt

/-- The handshake of a tunnel to the target. -/
def handshake (a : Attempt) : Handshake := { target := a.target, credentials := a.credentials }

/-- What follows the resolution, which gives a number of endpoints. -/
def resolved : Except Bytes Nat → Progress
  | .error message => .finished (.failed (.resolve message))
  | .ok 0 => .finished (.failed .noEndpoints)
  | .ok (_ + 1) => .waiting .connect

/-- What follows the connection to the proxy. -/
def connected (a : Attempt) : Except Bytes Unit → Progress
  | .error message => .finished (.failed (.connect message))
  | .ok () =>
    if Scheme.isTunnel a.via.scheme then .ofOutcome a.handshake.start
    else .finished (.opened [])

/-- What follows the sending of a message: bytes of the next answer may be there already. -/
def written (handshake : Handshake) : Except Bytes Unit → Progress
  | .error message => .finished (.failed (.write message))
  | .ok () =>
    if handshake.buffered = 0 then .waiting (.read handshake)
    else .ofOutcome (handshake.feed [])

/-- What follows the arrival of bytes, or of the end of the stream. -/
def received (handshake : Handshake) : Except Bytes (Option Bytes) → Progress
  | .error message => .finished (.failed (.read message))
  | .ok none => .finished (.failed .closed)
  | .ok (some bytes) => .ofOutcome (handshake.feed bytes)

end Attempt

/-! ### The work that remains -/

/-- A bound on the operations that follow if no bytes come in. -/
def Pending.remaining : Pending → Nat
  | resolve => 4
  | connect => 3
  | write _ handshake => 2 * handshake.buffered + 2
  | read handshake => 2 * handshake.buffered + 1

/-- The same when an operation is over. -/
def Progress.remaining : Progress → Nat
  | waiting pending => pending.remaining
  | finished _ => 0

theorem Pending.remaining_pos (pending : Pending) : 0 < pending.remaining := by
  cases pending <;> simp [remaining]

/-- Feeding bytes leaves less to do than the bytes held back and those fed may bring. -/
theorem remaining_ofOutcome_feed (handshake : Handshake) (bytes : Bytes) :
    (Progress.ofOutcome (handshake.feed bytes)).remaining ≤
      2 * (handshake.buffered + bytes.length) + 1 := by
  rcases h : handshake.feed bytes with ⟨outcome, after⟩
  cases outcome with
  | needMore =>
    have waits : (handshake.feed bytes).1 = .needMore := by rw [h]
    have := Handshake.buffered_feed_of_needMore waits
    simp only [h] at this
    simp only [Progress.ofOutcome, Progress.remaining, Pending.remaining]
    omega
  | emit message =>
    have emitted : (handshake.feed bytes).1 = .emit message := by rw [h]
    have := Handshake.buffered_feed_of_emit emitted
    simp only [h] at this
    simp only [Progress.ofOutcome, Progress.remaining, Pending.remaining]
    omega
  | done leftover => simp [Progress.ofOutcome, Progress.remaining]
  | failed error => simp [Progress.ofOutcome, Progress.remaining]

theorem remaining_ofOutcome_start (a : Attempt) :
    (Progress.ofOutcome a.handshake.start).remaining ≤ 2 := by
  have h0 : a.handshake.start.2.buffered = 0 := Handshake.buffered_start_of_idle rfl
  rcases h : a.handshake.start with ⟨outcome, after⟩
  have h1 : after.buffered = 0 := by rw [h] at h0; exact h0
  cases outcome <;>
    simp [Progress.ofOutcome, Progress.remaining, Pending.remaining, h1]

theorem remaining_resolved (result : Except Bytes Nat) :
    (Attempt.resolved result).remaining < Pending.resolve.remaining := by
  unfold Attempt.resolved
  split <;> simp [Progress.remaining, Pending.remaining]

theorem remaining_connected (a : Attempt) (result : Except Bytes Unit) :
    (a.connected result).remaining < Pending.connect.remaining := by
  have := remaining_ofOutcome_start a
  unfold Attempt.connected
  split
  · simp [Progress.remaining, Pending.remaining]
  · split
    · simp only [Pending.remaining]
      omega
    · simp [Progress.remaining, Pending.remaining]

theorem remaining_written (message : Bytes) (handshake : Handshake) (result : Except Bytes Unit) :
    (Attempt.written handshake result).remaining < (Pending.write message handshake).remaining := by
  have := remaining_ofOutcome_feed handshake []
  unfold Attempt.written
  split
  · simp [Progress.remaining, Pending.remaining]
  · split
    · simp [Progress.remaining, Pending.remaining]
    · simp only [Pending.remaining, List.length_nil] at *
      omega

theorem remaining_received (handshake : Handshake) (bytes : Bytes) :
    (Attempt.received handshake (.ok (some bytes))).remaining ≤
      (Pending.read handshake).remaining + 2 * bytes.length := by
  have := remaining_ofOutcome_feed handshake bytes
  simp only [Attempt.received, Pending.remaining]
  omega

end ProxyRouting.Connection
