import ProxyRouting.Address.IPv6
import ProxyRouting.Credentials

/-!
# What a SOCKS5 client sends

The client sends a greeting that offers authentication methods, a user and password
if the server asks for them, and a CONNECT request with the destination: an IPv4 or
IPv6 address if the host is one, and a domain name otherwise. The system reads the
address, and for the system a text ends at its first zero byte; a domain name is the
whole host. It is up to 255 ASCII bytes; international names have to arrive in their
ASCII form.

`readConnect?` and `readAuthentication?` are the server's side: they read such a
message back, with no byte missing or left over.
-/

namespace ProxyRouting.Socks5

/-! ### Constants of the protocol -/

/-- The version in the messages about the tunnel. -/
def version : UInt8 := 5

/-- The version of the user and password negotiation. -/
def authenticationVersion : UInt8 := 1

/-- The method without authentication. -/
def methodNone : UInt8 := 0

/-- The method with a user and a password. -/
def methodPassword : UInt8 := 2

/-- The server accepts none of the methods. -/
def methodNoneAcceptable : UInt8 := 0xFF

/-- The type of an IPv4 address. -/
def typeIPv4 : UInt8 := 1

/-- The type of a domain name. -/
def typeDomain : UInt8 := 3

/-- The type of an IPv6 address. -/
def typeIPv6 : UInt8 := 4

/-- The longest user, password and domain name that a length byte can tell. -/
def maxFieldLength : Nat := 255

/-! ### Destinations -/

/-- The host of a CONNECT request as it is sent. -/
inductive Destination where
  /-- An IPv4 address. -/
  | ipv4 (address : IPv4)
  /-- An IPv6 address. -/
  | ipv6 (address : IPv6)
  /-- A domain name. -/
  | domain (name : Bytes)
  deriving DecidableEq, Repr

/-- Whether a text can be sent as a domain name. -/
def isDomain (name : Bytes) : Bool :=
  name ≠ [] && name.length ≤ maxFieldLength && name.all (· ≤ 0x7F)

/-- How a host is sent, if it can be sent at all. -/
def Destination.ofHost? (host : Bytes) : Option Destination :=
  match IPv4.parse? (untilNul host) with
  | some address => some (.ipv4 address)
  | none =>
    match IPv6.parse? (untilNul host) with
    | some address => some (.ipv6 address)
    | none => if isDomain host then some (.domain host) else none

/-! ### Messages -/

/-- A text after its length. -/
def field (text : Bytes) : Bytes := UInt8.ofNat text.length :: text

/-- The two bytes of a port, the high one first. -/
def portBytes (port : UInt16) : Bytes := [(port >>> 8).toUInt8, port.toUInt8]

/-- The type and the bytes of a destination. -/
def Destination.bytes : Destination → Bytes
  | .ipv4 address => typeIPv4 :: address.bytes
  | .ipv6 address => typeIPv6 :: address.bytes
  | .domain name => typeDomain :: field name

/-- The greeting, which offers the password method only if `offerPassword`. -/
def greeting (offerPassword : Bool) : Bytes :=
  if offerPassword then [version, 2, methodNone, methodPassword] else [version, 1, methodNone]

/-- The user and the password. -/
def authenticationRequest (credentials : Credentials) : Bytes :=
  authenticationVersion :: (field credentials.username ++ field credentials.password)

/-- The request to connect to a destination. -/
def connectMessage (destination : Destination) (port : UInt16) : Bytes :=
  [version, 1, 0] ++ destination.bytes ++ portBytes port

/-- The request to connect to a target, if its host can be sent. -/
def connectRequest? (target : HostPort) : Option Bytes :=
  (Destination.ofHost? target.host).map (connectMessage · target.port)

/-! ### Reading them back -/

/-- A text after its length, and what follows it. -/
def readField? : Bytes → Option (Bytes × Bytes)
  | [] => none
  | length :: rest =>
    if length.toNat ≤ rest.length then some (rest.take length.toNat, rest.drop length.toNat)
    else none

/-- The user and password of an authentication request. -/
def readAuthentication? : Bytes → Option Credentials
  | [] => none
  | v :: rest =>
    if v ≠ authenticationVersion then none
    else
      match readField? rest with
      | none => none
      | some (username, rest) =>
        match readField? rest with
        | some (password, []) => some ⟨username, password⟩
        | _ => none

/-- The groups of sixteen bits that a string of bytes holds. -/
def readGroups : Bytes → List UInt16
  | high :: low :: rest => (256 * high.toUInt16 + low.toUInt16) :: readGroups rest
  | _ => []

/-- A destination by its type, and what follows it. -/
def readDestination? : Bytes → Option (Destination × Bytes)
  | [] => none
  | kind :: rest =>
    if kind = typeIPv4 then
      match rest with
      | a :: b :: c :: d :: rest => some (.ipv4 ⟨a, b, c, d⟩, rest)
      | _ => none
    else if kind = typeIPv6 then
      if h : (readGroups (rest.take 16)).length = 8 then
        some (.ipv6 ⟨readGroups (rest.take 16), h⟩, rest.drop 16)
      else none
    else if kind = typeDomain then
      (readField? rest).map fun (name, rest) => (.domain name, rest)
    else none

/-- The destination and port of a CONNECT request. -/
def readConnect? : Bytes → Option (Destination × UInt16)
  | v :: command :: reserved :: rest =>
    if v = version ∧ command = 1 ∧ reserved = 0 then
      match readDestination? rest with
      | some (destination, [high, low]) =>
        some (destination, 256 * high.toUInt16 + low.toUInt16)
      | _ => none
    else none
  | _ => none

end ProxyRouting.Socks5
