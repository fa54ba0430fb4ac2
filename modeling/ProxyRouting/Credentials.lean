import ProxyRouting.Proxy
import ProxyRouting.Text.Base64

/-!
# Credentials

A proxy's credentials are those of its URL if the URL is usable and names a user, and
else the user and password configured beside it. Credentials with an empty user
or password are none at all.
-/

namespace ProxyRouting

/-- A user and a password. -/
structure Credentials where
  /-- The user. -/
  username : Bytes
  /-- The password. -/
  password : Bytes
  deriving DecidableEq, Repr

namespace Credentials

/-- The credentials, unless one of the two fields is empty. -/
def complete? (credentials : Credentials) : Option Credentials :=
  if credentials.username = [] ∨ credentials.password = [] then none else some credentials

/-- The value of the `Proxy-Authorization` header in the Basic scheme. -/
def basicHeader (credentials : Credentials) : Bytes :=
  ascii "Basic " ++ Base64.encode (credentials.username ++ colon :: credentials.password)

end Credentials

namespace Proxy

/-- The user and password configured beside the URL, empty when missing. -/
def explicitCredentials (proxy : Proxy) : Credentials :=
  ⟨proxy.username.getD [], proxy.password.getD []⟩

/-- The user and password of the URL, if it is usable and names a user. -/
def urlCredentials? (proxy : Proxy) : Option Credentials :=
  match Url.parse? proxy.url with
  | some url => if url.username = [] then none else some ⟨url.username, url.password⟩
  | none => none

/-- The credentials with which the proxy is used. -/
def credentials? (proxy : Proxy) : Option Credentials :=
  (proxy.urlCredentials?.getD proxy.explicitCredentials).complete?

end Proxy

end ProxyRouting
