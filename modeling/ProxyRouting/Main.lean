import ProxyRouting.CommandLine
import ProxyRouting.Config.Json
import Std.Async.DNS
import Std.Async.TCP

/-!
# The program

The command line over the real files and the real network. What is done is decided by
`CommandLine` and `Connection`; here files are read, operations of the network are carried
out, and texts are written.
-/

namespace ProxyRouting.Program

open Connection (Attempt Ending Pending Progress)
open Std.Async Std.Net

/-- The bytes of a text. -/
def bytesOf (text : String) : Bytes := text.toUTF8.toList

/-- The text of some bytes, empty if they are no UTF-8. -/
def textOf (bytes : Bytes) : String :=
  (String.fromUTF8? (ByteArray.mk bytes.toArray)).getD ""

/-- Writes bytes to a stream. -/
def put (stream : IO.FS.Stream) (bytes : Bytes) : IO Unit := do
  stream.write (ByteArray.mk bytes.toArray)
  stream.flush

/-- The result of an action, or the text of its error. -/
def caught {α : Type} (action : IO α) : IO (Except Bytes α) := do
  try
    return .ok (← action)
  catch error =>
    return .error (bytesOf (toString error))

/-! ### Files -/

/-- What a configuration file holds. -/
def readContent (path : String) : IO Config.Content := do
  match ← caught (IO.FS.readBinFile path) with
  | .error _ => return .malformed (Config.Error.cannotOpen (bytesOf path)).message
  | .ok content =>
    match Config.Json.parse? content.toList with
    | some document => return .document document
    | none => return .malformed (ascii "the file is not written in JSON notation")

/-- What a path leads to, and if it leads to a directory, what the paths of its configuration
files lead to. -/
def survey (path : String) : IO (List (Bytes × Config.FileTree)) := do
  match ← caught (do let place ← IO.FS.realPath path; return (place, ← place.metadata)) with
  | .error _ => return []
  | .ok (place, metadata) =>
    if metadata.type == .dir then
      let mut entries := []
      for entry in ← place.readDir do
        let name := bytesOf entry.fileName
        if Config.isConfigName name then
          if (← entry.path.metadata).type == .file then
            entries := (name, .file (← readContent entry.path.toString)) :: entries
      return (bytesOf path, .directory entries) ::
        entries.map fun (name, tree) => (Config.FileTree.join (bytesOf path) name, tree)
    else
      return [(bytesOf path, .file (← readContent path))]

/-! ### The network -/

/-- What an attempt has of the network. -/
structure Link where
  /-- The addresses of the proxy. -/
  addresses : List IPAddr := []
  /-- The connection. -/
  socket : Option TCP.Socket.Client := none

/-- The end of an address at a port. -/
def socketAddress (port : UInt16) : IPAddr → SocketAddress
  | .v4 address => .v4 ⟨address, port⟩
  | .v6 address => .v6 ⟨address, port⟩

/-- Connects to the first of some addresses at which that is possible. -/
def connectFirst (port : UInt16) : List IPAddr → IO TCP.Socket.Client
  | [] => throw (IO.userError "no address")
  | address :: rest => do
    let socket ← TCP.Socket.Client.mk
    match ← caught (socket.connect (socketAddress port address)).block with
    | .ok () => return socket
    | .error message =>
      if rest.isEmpty then throw (IO.userError (textOf message)) else connectFirst port rest

/-- The connection of a link that has one. -/
def Link.client (link : Link) : IO TCP.Socket.Client :=
  match link.socket with
  | some socket => return socket
  | none => throw (IO.userError "not connected")

mutual

/-- Carries out the pending operation of an attempt and all that follow it. -/
partial def await (a : Attempt) (link : Link) : Pending → IO Ending
  | .resolve => do
    let found ← caught
      (DNS.getAddrInfo (textOf a.via.host) (toString a.via.port.toNat)).block
    let link := { link with addresses := (found.toOption.getD #[]).toList }
    follow a link (Attempt.resolved (found.map (·.size)))
  | .connect => do
    let made ← caught (connectFirst a.via.port link.addresses)
    follow a { link with socket := made.toOption } (a.connected (made.map fun _ => ()))
  | .write message handshake => do
    let sent ← caught do
      ((← link.client).send (ByteArray.mk message.toArray)).block
    follow a link (Attempt.written handshake sent)
  | .read handshake => do
    let received ← caught do
      ((← link.client).recv? (UInt64.ofNat Connection.Script.readSize)).block
    follow a link (Attempt.received handshake (received.map (Option.map ByteArray.toList)))

/-- Goes on after an operation. -/
partial def follow (a : Attempt) (link : Link) : Progress → IO Ending
  | .waiting pending => await a link pending
  | .finished ending => return ending

end

/-! ### Running -/

/-- Opens connections side by side and reports each; tells whether all were opened. -/
def openAll (attempts : List Attempt) : IO Bool := do
  let tasks ← attempts.mapM fun a => do
    return (a, ← IO.asTask (await a {} .resolve))
  let mut trace : Connection.Trace := {}
  for (a, task) in tasks do
    let ending ← IO.ofExcept task.get
    let one : Connection.Trace := { endings := [(a, ending)] }
    put (← IO.getStdout) one.reports
    put (← IO.getStderr) one.complaints
    trace := { trace with endings := trace.endings ++ one.endings }
  return trace.allOpen

/-- The seed of a run. -/
def randomSeed : IO UInt64 := do
  return (← IO.getRandomBytes 8).toList.foldl (fun seed b => 256 * seed + b.toUInt64) 0

/-- Runs the program. -/
def run (arguments : List String) : IO Nat := do
  let invocation := CommandLine.Invocation.ofArguments (arguments.map bytesOf)
  let places ← match invocation with
    | .route o => survey (textOf o.directory)
    | _ => pure []
  let prepared := invocation.prepare (← randomSeed) fun path => places.lookup path
  put (← IO.getStdout) prepared.output
  put (← IO.getStderr) prepared.errors
  match prepared.stopped with
  | some exitCode => return exitCode
  | none => return if ← openAll prepared.attempts then 0 else 2

end ProxyRouting.Program

/-- The program. -/
def main (arguments : List String) : IO UInt32 := do
  return UInt32.ofNat (← ProxyRouting.Program.run arguments)
