import ProxyRouting.Socks5.Error
import ProxyRouting.Socks5.Request

/-!
# What a SOCKS5 server answers

The server answers the greeting and the authentication with two bytes each, and the
CONNECT request with four bytes, an address and a port. Each `scan` looks at the
bytes received so far: they are too few to tell, they are wrong, or they begin with
a whole message. A header is judged as soon as all of it is there, and the bytes
behind the message are left for the next one.

`Reply` and `Transcript` state the form of a good answer without a scanner.
-/

namespace ProxyRouting.Socks5

/-- What the bytes received so far amount to. -/
inductive Scan (α : Type) where
  /-- More bytes are needed. -/
  | incomplete
  /-- They are not the message that was awaited. -/
  | invalid (error : Error)
  /-- They are a message and the bytes behind it. -/
  | complete (value : α) (rest : Bytes)
  deriving DecidableEq, Repr

/-- The methods of authentication that the client knows. -/
inductive Method where
  /-- None. -/
  | none
  /-- A user and a password. -/
  | password
  deriving DecidableEq, Repr

/-! ### The three messages -/

/-- The answer to the greeting: the method that the server chose. -/
def scanMethod : Bytes → Scan Method
  | v :: method :: rest =>
    if v ≠ version then .invalid (.methodVersion v)
    else if method = methodNoneAcceptable then .invalid .noAcceptableMethod
    else if method = methodPassword then .complete .password rest
    else if method = methodNone then .complete .none rest
    else .invalid (.unsupportedMethod method)
  | _ => .incomplete

/-- The answer to the user and password. -/
def scanAuthentication : Bytes → Scan Unit
  | v :: status :: rest =>
    if v ≠ Socks5.authenticationVersion then .invalid (.authenticationVersion v)
    else if status ≠ 0 then .invalid (.authenticationFailed status)
    else .complete () rest
  | _ => .incomplete

/-- The bytes behind the first `count` ones, when there are so many. -/
def skip (count : Nat) (rest : Bytes) : Scan Unit :=
  if rest.length < count then .incomplete else .complete () (rest.drop count)

/-- The address and port of the answer to a CONNECT request, by the address type. -/
def scanBound (kind : UInt8) (rest : Bytes) : Scan Unit :=
  if kind = typeIPv4 then skip (4 + 2) rest
  else if kind = typeIPv6 then skip (16 + 2) rest
  else if kind = typeDomain then
    match rest with
    | [] => .incomplete
    | length :: rest => skip (length.toNat + 2) rest
  else .invalid (.unsupportedAddressType kind)

/-- The answer to the request to connect to a target. -/
def scanConnect (target : HostPort) : Bytes → Scan Unit
  | v :: code :: reserved :: kind :: rest =>
    if v ≠ version then .invalid (.replyVersion v)
    else if code ≠ 0 then .invalid (.refused target code)
    else if reserved ≠ 0 then .invalid (.reservedByte reserved)
    else scanBound kind rest
  | _ => .incomplete

theorem length_of_scanMethod {bytes rest : Bytes} {method : Method}
    (h : scanMethod bytes = .complete method rest) : rest.length + 2 = bytes.length := by
  unfold scanMethod at h
  split at h
  · split at h
    · cases h
    split at h
    · cases h
    split at h
    · cases h; simp
    split at h
    · cases h; simp
    · cases h
  · cases h

theorem length_of_scanAuthentication {bytes rest : Bytes}
    (h : scanAuthentication bytes = .complete () rest) : rest.length + 2 = bytes.length := by
  unfold scanAuthentication at h
  split at h
  · split at h
    · cases h
    split at h
    · cases h
    · cases h; simp
  · cases h

/-! ### The form of a good answer -/

/-- The address of a CONNECT reply after its type byte. -/
inductive BoundAddress : UInt8 → Bytes → Prop
  /-- Four bytes. -/
  | ipv4 {address : Bytes} : address.length = 4 → BoundAddress typeIPv4 address
  /-- Sixteen bytes. -/
  | ipv6 {address : Bytes} : address.length = 16 → BoundAddress typeIPv6 address
  /-- A length byte and as many bytes. -/
  | domain {length : UInt8} {name : Bytes} :
      name.length = length.toNat → BoundAddress typeDomain (length :: name)

/-- A CONNECT reply that reports success. -/
inductive Reply : Bytes → Prop
  /-- The header, an address and a port. -/
  | mk {kind : UInt8} {address port : Bytes} :
      BoundAddress kind address → port.length = 2 →
      Reply ([version, 0, 0, kind] ++ address ++ port)

/-- All that a server sends until a tunnel is established; a client that has a user
and password, as `hasCredentials` tells, may be asked for them. -/
inductive Transcript (hasCredentials : Bool) : Bytes → Prop
  /-- No authentication. -/
  | plain {reply : Bytes} : Reply reply →
      Transcript hasCredentials ([version, methodNone] ++ reply)
  /-- The user and password are asked for and accepted. -/
  | password {reply : Bytes} : hasCredentials = true → Reply reply →
      Transcript hasCredentials
        ([version, methodPassword, Socks5.authenticationVersion, 0] ++ reply)

end ProxyRouting.Socks5
