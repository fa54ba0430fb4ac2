import ProxyRouting.HostPort

/-!
# Why a SOCKS5 negotiation fails

The causes, and the text of each. Three are mistakes of the caller, two are about
what was configured, and the others are what the server answered.
-/

namespace ProxyRouting.Socks5

/-- The meaning of the code in the reply to a CONNECT request. -/
def replyText (code : UInt8) : Bytes :=
  match code with
  | 0 => ascii "Succeeded"
  | 1 => ascii "General failure"
  | 2 => ascii "Connection not allowed"
  | 3 => ascii "Network unreachable"
  | 4 => ascii "Host unreachable"
  | 5 => ascii "Connection refused"
  | 6 => ascii "TTL expired"
  | 7 => ascii "Command not supported"
  | 8 => ascii "Address type not supported"
  | _ => ascii "Unknown error code: " ++ Decimal.ofNat code.toNat

/-- The cause of a failed negotiation. -/
inductive Error where
  /-- It was started a second time. -/
  | alreadyStarted
  /-- Bytes came in before it was started. -/
  | notStarted
  /-- Bytes came in after the tunnel was established. -/
  | alreadyEstablished
  /-- The user or the password does not fit its length byte. -/
  | credentialsTooLong
  /-- The target's host is no address and no domain name. -/
  | unencodableHost (host : Bytes)
  /-- The method reply has another version. -/
  | methodVersion (found : UInt8)
  /-- The server accepts none of the methods. -/
  | noAcceptableMethod
  /-- The server wants a user and password, and there are none. -/
  | credentialsRequired
  /-- The server chose a method that was not offered. -/
  | unsupportedMethod (method : UInt8)
  /-- The authentication reply has another version. -/
  | authenticationVersion (found : UInt8)
  /-- The server refused the user and password. -/
  | authenticationFailed (status : UInt8)
  /-- The CONNECT reply has another version. -/
  | replyVersion (found : UInt8)
  /-- The server refused to connect to the target. -/
  | refused (target : HostPort) (code : UInt8)
  /-- The reserved byte of the CONNECT reply is not zero. -/
  | reservedByte (found : UInt8)
  /-- The CONNECT reply has an address of an unknown type. -/
  | unsupportedAddressType (found : UInt8)
  deriving DecidableEq, Repr

namespace Error

/-- The number of a byte. -/
def number (b : UInt8) : Bytes := Decimal.ofNat b.toNat

/-- The text of a cause. -/
def message : Error → Bytes
  | alreadyStarted => ascii "SOCKS5 handshake already started"
  | notStarted => ascii "SOCKS5 handshake received data before start"
  | alreadyEstablished => ascii "SOCKS5 handshake already established"
  | credentialsTooLong =>
    ascii "SOCKS5 username and password must be at most 255 bytes each"
  | unencodableHost host =>
    ascii "SOCKS5 target host '" ++ host ++ ascii "' cannot be encoded"
  | methodVersion found =>
    ascii "Invalid SOCKS version. Expected 5, got " ++ number found
  | noAcceptableMethod =>
    ascii "SOCKS5 upstream accepted none of the offered authentication methods"
  | credentialsRequired =>
    ascii "SOCKS5 upstream requires authentication, but no credentials are configured"
  | unsupportedMethod method =>
    ascii "Unsupported SOCKS5 authentication method: " ++ number method
  | authenticationVersion found =>
    ascii "Invalid authentication subnegotiation version. Expected 1, got " ++ number found
  | authenticationFailed status =>
    ascii "SOCKS5 authentication failed with status: " ++ number status
  | replyVersion found =>
    ascii "Invalid SOCKS version in reply. Expected 5, got " ++ number found
  | refused target code =>
    ascii "SOCKS5 upstream refused CONNECT to " ++ target.text ++ ascii ": " ++ replyText code
  | reservedByte found =>
    ascii "Invalid reserved byte in SOCKS5 reply: " ++ number found
  | unsupportedAddressType found =>
    ascii "Unsupported address type in SOCKS5 reply: " ++ number found

end Error

end ProxyRouting.Socks5
