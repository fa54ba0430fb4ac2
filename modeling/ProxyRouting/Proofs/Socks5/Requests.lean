import ProxyRouting.Socks5.Request

/-!
# Reading what a client sends

A server reads the messages of a client back: the methods that a greeting offers, and the user
and password of an authentication request. The length bytes tell the fields apart, as long as
no field is longer than a byte can tell.

The first byte of a message tells what it is about: the tunnel, or the authentication.
-/

namespace ProxyRouting.Socks5

/-! ### Greetings -/

/-- The methods that a greeting offers. -/
def readGreeting? : Bytes → Option (List UInt8)
  | v :: count :: methods =>
    if v = version ∧ methods.length = count.toNat then some methods else none
  | _ => none

/-- The password method is offered to the server if and only if it was meant to be. -/
theorem readGreeting?_greeting (offerPassword : Bool) :
    ∃ methods, readGreeting? (greeting offerPassword) = some methods ∧
      (methodPassword ∈ methods ↔ offerPassword = true) := by
  cases offerPassword with
  | false => exact ⟨[methodNone], rfl, by decide⟩
  | true => exact ⟨[methodNone, methodPassword], rfl, by decide⟩

/-! ### Users and passwords -/

/-- A field is read back with what follows it. -/
theorem readField?_append {text : Bytes} (rest : Bytes) (fits : text.length ≤ maxFieldLength) :
    readField? (field text ++ rest) = some (text, rest) := by
  have length : (UInt8.ofNat text.length).toNat = text.length :=
    UInt8.toNat_ofNat_of_lt' (Nat.lt_of_le_of_lt fits (by decide))
  have enough : text.length ≤ (text ++ rest).length := by
    rw [List.length_append]
    exact Nat.le_add_right _ _
  simp only [field, List.cons_append, readField?, length]
  rw [if_pos enough, List.take_left, List.drop_left]

/-- An authentication request tells the user and the password, and nothing else. -/
theorem readAuthentication?_authenticationRequest {c : Credentials}
    (username : c.username.length ≤ maxFieldLength)
    (password : c.password.length ≤ maxFieldLength) :
    readAuthentication? (authenticationRequest c) = some c := by
  have last := readField?_append [] password
  rw [List.append_nil] at last
  simp only [authenticationRequest, readAuthentication?, ne_eq, not_true_eq_false, if_false,
    readField?_append _ username, last]

/-! ### First bytes -/

theorem head?_greeting (offerPassword : Bool) :
    (greeting offerPassword).head? = some version := by
  cases offerPassword <;> rfl

theorem head?_of_connectRequest? {target : HostPort} {request : Bytes}
    (encodes : connectRequest? target = some request) : request.head? = some version := by
  obtain ⟨destination, -, rfl⟩ := Option.map_eq_some_iff.1 encodes
  rfl

theorem ne_of_head? {message other : Bytes} (about : message.head? = some authenticationVersion)
    (tunnel : other.head? = some version) : message ≠ other := by
  rintro rfl
  exact absurd (tunnel.symm.trans about) (by decide)

end ProxyRouting.Socks5
