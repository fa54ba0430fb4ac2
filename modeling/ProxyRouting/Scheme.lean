import ProxyRouting.Bytes

/-!
# Schemes of a proxy's URL

Three schemes are supported, and each has the port that is used when a URL names
none. Flows through a `socks5` proxy need a tunnel to be negotiated first. The
names are compared byte by byte.
-/

namespace ProxyRouting.Scheme

/-- Plain HTTP to the proxy. -/
def http : Bytes := ascii "http"

/-- HTTP over TLS to the proxy. -/
def https : Bytes := ascii "https"

/-- SOCKS version 5. -/
def socks5 : Bytes := ascii "socks5"

/-- The port of a supported scheme, `none` for every other one. -/
def defaultPort? (scheme : Bytes) : Option UInt16 :=
  if scheme = http then some 80
  else if scheme = https then some 443
  else if scheme = socks5 then some 1080
  else none

/-- Whether a tunnel has to be negotiated. -/
def isTunnel (scheme : Bytes) : Bool := scheme = socks5

end ProxyRouting.Scheme
