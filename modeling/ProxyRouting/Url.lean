import ProxyRouting.HostPort
import ProxyRouting.Scheme
import ProxyRouting.Text.Percent

/-!
# URLs of proxies

A URL is `scheme://authority`, and what follows from the first `/`, `?` or `#` on is
ignored. The authority may begin with a user and a password, up to its last `@`:
these are cut at their first colon and may hold percent escapes. The host stands
in brackets and is then kept as it is, or else ends at the last colon and is made
small.
-/

namespace ProxyRouting

/-- Where a flow is sent: the scheme selects the protocol, host and port the next hop. -/
structure Address where
  /-- The scheme. -/
  scheme : Bytes
  /-- The host. -/
  host : Bytes
  /-- The port. -/
  port : UInt16
  deriving DecidableEq, Repr

/-- `scheme://host:port`, the form in which an address is shown. -/
def Address.text (address : Address) : Bytes :=
  address.scheme ++ ascii "://" ++ (⟨address.host, address.port⟩ : HostPort).text

/-- An address with the user and password that its URL holds, empty when missing. -/
structure Url extends Address where
  /-- The user. -/
  username : Bytes
  /-- The password. -/
  password : Bytes
  deriving DecidableEq, Repr

namespace Url

/-- The bytes that end the authority. -/
def endsAuthority (b : UInt8) : Bool := b = slash || b = questionMark || b = numberSign

/-- The authority of a URL, given without its scheme. -/
def authority (text : Bytes) : Bytes := text.takeWhile fun b => !endsAuthority b

/-- The user and password of the part before the `@`. -/
def userinfo (text : Bytes) : Bytes × Bytes :=
  match cutFirst? colon text with
  | some (user, password) => (Percent.decode user, Percent.decode password)
  | none => (Percent.decode text, [])

/-- The user and password of an authority, and the part that names the host. -/
def splitAuthority (text : Bytes) : (Bytes × Bytes) × Bytes :=
  match cutLast? atSign text with
  | some (user, host) => (userinfo user, host)
  | none => (([], []), text)

/-- The host part outside of brackets: cut at its last colon, the host made small. -/
def unbracketedHost (text : Bytes) : HostText :=
  let parts := HostText.ofLastColon text
  { parts with host := lower parts.host }

/-- The URL that `text` is, if its scheme is supported and its parts are in order. -/
def parse? (text : Bytes) : Option Url :=
  match cutText? (ascii "://") text with
  | none => none
  | some (scheme, rest) =>
    match Scheme.defaultPort? (lower scheme) with
    | none => none
    | some fallback =>
      let ((username, password), host) := splitAuthority (authority rest)
      match HostText.read? unbracketedHost host with
      | none => none
      | some parts =>
        (parts.resolve? fallback).map fun target =>
          { scheme := lower scheme, host := target.host, port := target.port, username, password }

end Url

end ProxyRouting
