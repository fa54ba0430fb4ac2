import ProxyRouting.Connection.Attempt

/-!
# A scripted network

A script tells beforehand how the operations of a network come out: whether resolving and
connecting succeed, what is there to be read, and which write fails. A read gives at most
512 bytes and leaves the others for the next one; when nothing is left, the stream has
ended. All attempts share one script.
-/

namespace ProxyRouting.Connection

/-- What a read meets. -/
inductive Arrival where
  /-- These bytes. -/
  | data (bytes : Bytes)
  /-- An error. -/
  | fault (message : Bytes)
  deriving DecidableEq, Repr

/-- How a network behaves. -/
structure Script where
  /-- The error of every resolution. -/
  resolveFault : Option Bytes := none
  /-- How many endpoints a resolution gives. -/
  endpoints : Nat := 1
  /-- The error of every connect. -/
  connectFault : Option Bytes := none
  /-- What is there to be read. -/
  arrivals : List Arrival := []
  /-- The error of one write, and which one from now on: 1 is the next. -/
  writeFault : Option (Nat × Bytes) := none
  deriving DecidableEq, Repr

namespace Script

/-- The most bytes that one read gives. -/
def readSize : Nat := 512

/-- How a resolution ends. -/
def resolve (script : Script) : Except Bytes Nat :=
  match script.resolveFault with
  | some message => .error message
  | none => .ok script.endpoints

/-- How a connect ends. -/
def connect (script : Script) : Except Bytes Unit :=
  match script.connectFault with
  | some message => .error message
  | none => .ok ()

/-- How a write ends, and the script after it. -/
def write (script : Script) : Except Bytes Unit × Script :=
  match script.writeFault with
  | some (1, message) => (.error message, { script with writeFault := none })
  | some (count + 1, message) => (.ok (), { script with writeFault := some (count, message) })
  | _ => (.ok (), script)

/-- How a read ends, with `none` for the end of the stream, and the script after it. -/
def read (script : Script) : Except Bytes (Option Bytes) × Script :=
  match script.arrivals with
  | [] => (.ok none, script)
  | .fault message :: rest => (.error message, { script with arrivals := rest })
  | .data bytes :: rest =>
    if bytes.length ≤ readSize then (.ok (some bytes), { script with arrivals := rest })
    else
      (.ok (some (bytes.take readSize)),
        { script with arrivals := .data (bytes.drop readSize) :: rest })

/-! ### What is left to be read -/

/-- A measure of what a read meets; it outweighs what the bytes can lead to. -/
def arrivalSize : Arrival → Nat
  | .data bytes => 3 * bytes.length + 1
  | .fault _ => 1

/-- A measure of some arrivals. -/
def arrivalsSize : List Arrival → Nat
  | [] => 0
  | arrival :: rest => arrivalSize arrival + arrivalsSize rest

/-- A measure of all that is there to be read. -/
def size (script : Script) : Nat := arrivalsSize script.arrivals

theorem size_write (script : Script) : script.write.2.size = script.size := by
  unfold write
  split <;> rfl

/-- A read makes the script smaller by more than the bytes that it brings can lead to. -/
theorem size_read_of_ok {script : Script} {bytes : Bytes}
    (h : script.read.1 = .ok (some bytes)) :
    script.read.2.size + 2 * bytes.length < script.size := by
  unfold read at *
  split at h
  · cases h
  · cases h
  · next held rest arrivals =>
    rw [size, size, arrivals, arrivalsSize, arrivalSize]
    split at h
    · next fits =>
      cases h
      rw [if_pos fits]
      dsimp only
      omega
    · next fits =>
      cases h
      rw [if_neg fits]
      simp only [arrivalsSize, arrivalSize, List.length_take, List.length_drop, readSize] at *
      omega

theorem size_read_le (script : Script) : script.read.2.size ≤ script.size := by
  unfold read
  split
  · exact Nat.le_refl _
  · next message rest arrivals => simp [size, arrivals, arrivalsSize]
  · next held rest arrivals =>
    rw [size, size, arrivals, arrivalsSize, arrivalSize]
    split
    · dsimp only
      omega
    · simp only [arrivalsSize, arrivalSize, List.length_drop]
      omega

end Script

end ProxyRouting.Connection
