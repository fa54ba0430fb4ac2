import ProxyRouting.Proofs.Socks5.Destinations
import ProxyRouting.Proofs.Socks5.Failures
import ProxyRouting.Proofs.Socks5.Messages

/-!
# What a handshake relies on

A handshake finds out when it is started whether its messages can be made up, and then does not ask
again: it takes the CONNECT request, the user and password as given when they are sent, it takes
bytes off its buffer, and it expects that a handshake which is not new and not over is in a stage.

The strict calls do the same steps, but meet a `Fault` as soon as something is relied on that is not
so: a byte is looked at or taken off that is not in the buffer, a length does not fit its byte, a
message is wanted that cannot be made up, or there is no stage to go on with. The last of these is
told as a failure of its own. In whatever order a handshake is called, the strict calls have
results, and they are those of the calls (`relies_on_what_holds`).
-/

namespace ProxyRouting.Socks5

/-! ### Strict operations -/

/-- What a handshake relies on without looking, when it is not so. -/
inductive Fault where
  /-- A byte is wanted that is not in the buffer. -/
  | shortBuffer
  /-- A length byte does not tell the length of its text. -/
  | cutLength (text : Bytes)
  /-- A user and password are wanted, and there are none. -/
  | noCredentials
  /-- A CONNECT request is wanted, and the host cannot be sent. -/
  | noRequest (host : Bytes)
  /-- An answer is expected, and the handshake waits for none. -/
  | unknownState (phase : Phase)
  deriving DecidableEq, Repr

variable {α β : Type}

/-- What has to be there. -/
def demand (fault : Fault) : Option α → Except Fault α
  | some value => .ok value
  | none => .error fault

/-- A strict step that has a result goes on with it. -/
theorem ok_bind (value : α) (next : α → Except Fault β) : (.ok value >>= next) = next value := rfl

/-- The byte at some place of a buffer; it has to be there. -/
def byteAt (buffer : Bytes) (place : Nat) : Except Fault UInt8 :=
  demand .shortBuffer buffer[place]?

theorem byteAt_cons_zero (b : UInt8) (rest : Bytes) : byteAt (b :: rest) 0 = .ok b := rfl

theorem byteAt_cons_succ (b : UInt8) (rest : Bytes) (place : Nat) :
    byteAt (b :: rest) (place + 1) = byteAt rest place := rfl

/-- Takes the first bytes off a buffer; it has to hold as many. -/
def consume (count : Nat) (buffer : Bytes) : Except Fault Bytes :=
  if count ≤ buffer.length then .ok (buffer.drop count) else .error .shortBuffer

/-- A text after its length; the length byte has to tell it. -/
def strictField (text : Bytes) : Except Fault Bytes :=
  if (UInt8.ofNat text.length).toNat = text.length then .ok (field text)
  else .error (.cutLength text)

/-- The user and password; they have to be there, and both have to fit. -/
def strictAuthentication (credentials : Option Credentials) : Except Fault Bytes := do
  let c ← demand .noCredentials credentials
  let username ← strictField c.username
  let password ← strictField c.password
  return authenticationVersion :: (username ++ password)

/-- The type and the bytes of a destination; a domain name has to fit. -/
def Destination.strictBytes : Destination → Except Fault Bytes
  | .ipv4 address => .ok (typeIPv4 :: address.bytes)
  | .ipv6 address => .ok (typeIPv6 :: address.bytes)
  | .domain name => do
    let text ← strictField name
    return typeDomain :: text

/-- The CONNECT request; its host has to be one that can be sent. -/
def strictConnect (target : HostPort) : Except Fault Bytes := do
  let destination ← demand (.noRequest target.host) (Destination.ofHost? target.host)
  let bytes ← destination.strictBytes
  return [version, 1, 0] ++ bytes ++ portBytes target.port

theorem consume_append {count : Nat} (front rest : Bytes) (length : front.length = count) :
    consume count (front ++ rest) = .ok rest := by
  have enough : count ≤ (front ++ rest).length := by
    rw [List.length_append, length]
    exact Nat.le_add_right _ _
  rw [consume, if_pos enough, ← length, List.drop_left]

theorem strictField_of_fits {text : Bytes} (fits : text.length ≤ maxFieldLength) :
    strictField text = .ok (field text) :=
  if_pos (UInt8.toNat_ofNat_of_lt' (Nat.lt_of_le_of_lt fits (by decide)))

theorem strictAuthentication_of_fits {c : Credentials}
    (username : c.username.length ≤ maxFieldLength)
    (password : c.password.length ≤ maxFieldLength) :
    strictAuthentication (some c) = .ok (authenticationRequest c) := by
  simp only [strictAuthentication, demand, ok_bind, strictField_of_fits username,
    strictField_of_fits password]
  rfl

/-- A host that can be sent fits its length byte. -/
theorem strictBytes_of_ofHost? {host : Bytes} {destination : Destination}
    (sent : Destination.ofHost? host = some destination) :
    destination.strictBytes = .ok destination.bytes := by
  cases ofHost?_eq_some_iff.1 sent with
  | ipv4 _ => rfl
  | ipv6 _ => rfl
  | domain _ _ short _ =>
    simp only [Destination.strictBytes, strictField_of_fits short]
    rfl

/-- The CONNECT request is made up strictly. -/
theorem strictConnect_eq (target : HostPort) :
    strictConnect target = demand (.noRequest target.host) (connectRequest? target) := by
  unfold strictConnect connectRequest?
  cases sent : Destination.ofHost? target.host with
  | none => rfl
  | some destination =>
    simp only [demand, ok_bind, strictBytes_of_ofHost? sent]
    rfl

/-! ### Texts of failures -/

/-- The name of a phase. -/
def Phase.name : Phase → Bytes
  | .idle => ascii "idle"
  | .waiting .greeting _ => ascii "greeting"
  | .waiting .authenticating _ => ascii "authenticating"
  | .waiting .connecting _ => ascii "connecting"
  | .established => ascii "established"
  | .failed _ => ascii "failed"

/-- The text of the failure that a strict call tells. -/
def failureText? : Except Fault (Outcome × Handshake) → Option Bytes
  | .ok (.failed error, _) => some error.message
  | .error (.unknownState phase) => some (ascii "Unknown SOCKS5 state: " ++ phase.name)
  | _ => none

/-- A call that has a result does not tell of a state that is not known. -/
theorem not_unknownState_of_ok {result : Outcome × Handshake} {text : Bytes}
    (told : failureText? (.ok result) = some text) : ¬ ascii "Unknown SOCKS5 state" <+: text := by
  obtain ⟨outcome, h⟩ := result
  cases outcome with
  | failed error =>
    cases told
    exact error.not_unknownState
  | _ => cases told

namespace Handshake

/-! ### Strict calls -/

/-- The stage of a handshake; it has to be in one. -/
def currentStage (h : Handshake) : Except Fault Stage :=
  match h.phase with
  | .waiting stage _ => .ok stage
  | phase => .error (.unknownState phase)

/-- Sends the CONNECT request; it has to exist. -/
def strictEmitConnect (h : Handshake) (buffer : Bytes) : Except Fault (Outcome × Handshake) := do
  let request ← strictConnect h.target
  return h.emit request .connecting buffer

/-- Handles the method reply; two bytes are looked at and taken off. -/
def strictMethod (h : Handshake) (buffer : Bytes) : Except Fault (Outcome × Handshake) :=
  if buffer.length < 2 then .ok (h.needMore .greeting buffer)
  else do
    let v ← byteAt buffer 0
    let method ← byteAt buffer 1
    if v ≠ version then return h.fail (.methodVersion v)
    else if method = methodNoneAcceptable then return h.fail .noAcceptableMethod
    else if method = methodPassword then
      if h.credentials.isNone then return h.fail .credentialsRequired
      else
        let rest ← consume 2 buffer
        let request ← strictAuthentication h.credentials
        return h.emit request .authenticating rest
    else if method = methodNone then
      let rest ← consume 2 buffer
      h.strictEmitConnect rest
    else return h.fail (.unsupportedMethod method)

/-- Handles the authentication reply; two bytes are looked at and taken off. -/
def strictVerdict (h : Handshake) (buffer : Bytes) : Except Fault (Outcome × Handshake) :=
  if buffer.length < 2 then .ok (h.needMore .authenticating buffer)
  else do
    let v ← byteAt buffer 0
    let status ← byteAt buffer 1
    if v ≠ Socks5.authenticationVersion then return h.fail (.authenticationVersion v)
    else if status ≠ 0 then return h.fail (.authenticationFailed status)
    else
      let rest ← consume 2 buffer
      h.strictEmitConnect rest

/-- Opens the tunnel when a reply of some length is there, and takes it off. -/
def strictOpen (h : Handshake) (total : Nat) (buffer : Bytes) :
    Except Fault (Outcome × Handshake) :=
  if buffer.length < total then .ok (h.needMore .connecting buffer)
  else do
    let rest ← consume total buffer
    return (.done rest, { h with phase := .established })

/-- Handles the CONNECT reply; its header is looked at, and the length byte of a domain name. -/
def strictReply (h : Handshake) (buffer : Bytes) : Except Fault (Outcome × Handshake) :=
  if buffer.length < 4 then .ok (h.needMore .connecting buffer)
  else do
    let v ← byteAt buffer 0
    let code ← byteAt buffer 1
    let reserved ← byteAt buffer 2
    let kind ← byteAt buffer 3
    if v ≠ version then return h.fail (.replyVersion v)
    else if code ≠ 0 then return h.fail (.refused h.target code)
    else if reserved ≠ 0 then return h.fail (.reservedByte reserved)
    else if kind = typeIPv4 then h.strictOpen (4 + 4 + 2) buffer
    else if kind = typeIPv6 then h.strictOpen (4 + 16 + 2) buffer
    else if kind = typeDomain then
      if buffer.length < 5 then return h.needMore .connecting buffer
      else
        let length ← byteAt buffer 4
        h.strictOpen (4 + 1 + length.toNat + 2) buffer
    else return h.fail (.unsupportedAddressType kind)

/-- Handles the bytes received for an answer. -/
def strictReceive (h : Handshake) (stage : Stage) (buffer : Bytes) :
    Except Fault (Outcome × Handshake) :=
  match stage with
  | .greeting => h.strictMethod buffer
  | .authenticating => h.strictVerdict buffer
  | .connecting => h.strictReply buffer

/-- Handles bytes that have come in. A handshake that is neither over nor new has to be in a
stage. -/
def strictFeed (h : Handshake) (bytes : Bytes) : Except Fault (Outcome × Handshake) :=
  if h.phase = .established then .ok (.failed .alreadyEstablished, h)
  else if let some error := h.error? then .ok (.failed error, h)
  else if h.phase = .idle then .ok (h.fail .notStarted)
  else do
    let stage ← h.currentStage
    h.strictReceive stage (h.buffer ++ bytes)

/-- Begins the negotiation; the CONNECT request is made up to see whether it can be. -/
def strictStart (h : Handshake) : Except Fault (Outcome × Handshake) :=
  if h.phase ≠ .idle then .ok (h.fail .alreadyStarted)
  else if !h.credentialsFit then .ok (h.fail .credentialsTooLong)
  else
    match Destination.ofHost? h.target.host with
    | none => .ok (h.fail (.unencodableHost h.target.host))
    | some destination => do
      let _ ← destination.strictBytes
      return h.emit (greeting h.credentials.isSome) .greeting []

/-- What a call comes to if nothing is relied on that is not so. -/
def strictAnswer (h : Handshake) : Call → Except Fault (Outcome × Handshake)
  | .start => h.strictStart
  | .feed bytes => h.strictFeed bytes

/-! ### The strict calls have the results of the calls -/

variable {h : Handshake} {request : Bytes}

theorem strictEmitConnect_eq (encodes : connectRequest? h.target = some request) (rest : Bytes) :
    h.strictEmitConnect rest = .ok (h.emitConnect rest) := by
  simp only [strictEmitConnect, strictConnect_eq, encodes, emitConnect]
  rfl

/-- The user and password are those that were found to fit. -/
theorem strictAuthentication_of_equipped (equipped : h.Equipped request) {c : Credentials}
    (has : h.credentials = some c) :
    strictAuthentication h.credentials = .ok (authenticationRequest c) := by
  obtain ⟨username, password⟩ := credentialsFit_iff.1 equipped.fits c has
  rw [has, strictAuthentication_of_fits username password]

theorem strictMethod_eq (equipped : h.Equipped request) (buffer : Bytes) :
    h.strictMethod buffer = .ok (h.receiveMethod buffer) := by
  match buffer with
  | [] | [_] => rfl
  | v :: method :: rest =>
    have enough : ¬ (v :: method :: rest).length < 2 := by simp
    have taken : consume 2 (v :: method :: rest) = .ok rest :=
      consume_append [v, method] rest rfl
    simp only [strictMethod, if_neg enough, receiveMethod, scanMethod, taken,
      strictEmitConnect_eq equipped.encodes, byteAt_cons_zero, byteAt_cons_succ, ok_bind]
    split_ifs with other none_acceptable password missing plain
    · rfl
    · rfl
    · rw [Option.isNone_iff_eq_none.1 missing]
      rfl
    · obtain ⟨c, has⟩ := Option.ne_none_iff_exists'.1 (mt Option.isNone_iff_eq_none.2 missing)
      rw [strictAuthentication_of_equipped equipped has, has]
      rfl
    · rfl
    · rfl

theorem strictVerdict_eq (equipped : h.Equipped request) (buffer : Bytes) :
    h.strictVerdict buffer = .ok (h.receiveVerdict buffer) := by
  match buffer with
  | [] | [_] => rfl
  | v :: status :: rest =>
    have enough : ¬ (v :: status :: rest).length < 2 := by simp
    have taken : consume 2 (v :: status :: rest) = .ok rest :=
      consume_append [v, status] rest rfl
    simp only [strictVerdict, if_neg enough, receiveVerdict, scanAuthentication, taken,
      strictEmitConnect_eq equipped.encodes, byteAt_cons_zero, byteAt_cons_succ, ok_bind]
    split_ifs <;> rfl

/-- What follows from what the bytes of a CONNECT reply amount to. -/
def conclude (h : Handshake) (buffer : Bytes) : Scan Unit → Outcome × Handshake
  | .incomplete => h.needMore .connecting buffer
  | .invalid error => h.fail error
  | .complete () rest => (.done rest, { h with phase := .established })

theorem receiveReply_eq (h : Handshake) (buffer : Bytes) :
    h.receiveReply buffer = h.conclude buffer (scanConnect h.target buffer) := by
  unfold receiveReply
  cases scanConnect h.target buffer <;> rfl

/-- A reply is taken off with its first bytes, which were looked at before. -/
theorem strictOpen_append (h : Handshake) {total count : Nat} (front rest : Bytes)
    (length : front.length + count = total) :
    h.strictOpen total (front ++ rest) = .ok (h.conclude (front ++ rest) (skip count rest)) := by
  have fewer : (front ++ rest).length < total ↔ rest.length < count := by
    rw [List.length_append]
    omega
  have behind : (front ++ rest).drop total = rest.drop count := by
    rw [← length, List.drop_append, List.drop_eq_nil_of_le (Nat.le_add_right _ _),
      Nat.add_sub_cancel_left, List.nil_append]
  simp only [strictOpen, skip, fewer, consume, behind]
  split_ifs with few enough
  · rfl
  · rfl
  · exact absurd (Nat.le_of_not_lt (mt fewer.1 few)) enough

theorem strictReply_eq (h : Handshake) (buffer : Bytes) :
    h.strictReply buffer = .ok (h.receiveReply buffer) := by
  rw [receiveReply_eq]
  match buffer with
  | [] | [_] | [_, _] | [_, _, _] => rfl
  | v :: code :: reserved :: kind :: rest =>
    have enough : ¬ (v :: code :: reserved :: kind :: rest).length < 4 := by simp
    simp only [strictReply, if_neg enough, scanConnect, scanBound, byteAt_cons_zero,
      byteAt_cons_succ, ok_bind]
    split_ifs with other refused reserved_ne ipv4 ipv6 domain few
    · rfl
    · rfl
    · rfl
    · exact h.strictOpen_append [v, code, reserved, kind] rest rfl
    · exact h.strictOpen_append [v, code, reserved, kind] rest rfl
    · cases rest with
      | nil => rfl
      | cons length rest =>
        simp only [List.length_cons] at few
        omega
    · cases rest with
      | nil => exact absurd (by simp) few
      | cons length rest =>
        simp only [byteAt_cons_zero, ok_bind]
        exact h.strictOpen_append [v, code, reserved, kind, length] rest (by simp; omega)
    · rfl

theorem strictReceive_eq (equipped : h.Equipped request) (stage : Stage) (buffer : Bytes) :
    h.strictReceive stage buffer = .ok (h.receive stage buffer) := by
  cases stage with
  | greeting => exact strictMethod_eq equipped buffer
  | authenticating => exact strictVerdict_eq equipped buffer
  | connecting => exact h.strictReply_eq buffer

/-- The messages of a handshake that waits for an answer can all be made up. -/
def IsEquipped (h : Handshake) : Prop :=
  ∀ stage held, h.phase = .waiting stage held → ∃ request, h.Equipped request

theorem strictFeed_eq (isEquipped : h.IsEquipped) (bytes : Bytes) :
    h.strictFeed bytes = .ok (h.feed bytes) := by
  cases phase : h.phase with
  | idle => simp [strictFeed, feed, error?, phase]
  | waiting stage held =>
    obtain ⟨request, equipped⟩ := isEquipped stage held phase
    simp [strictFeed, feed, error?, currentStage, buffer, phase, ok_bind, strictReceive_eq equipped]
  | established => simp [strictFeed, feed, phase]
  | failed error => simp [strictFeed, feed, error?, phase]

theorem strictStart_eq (h : Handshake) : h.strictStart = .ok h.start := by
  cases phase : h.phase with
  | idle =>
    simp only [strictStart, start, phase, connectRequest?]
    cases h.credentialsFit with
    | false => rfl
    | true =>
      cases sent : Destination.ofHost? h.target.host with
      | none => rfl
      | some destination =>
        simp only [strictBytes_of_ofHost? sent]
        rfl
  | _ => simp [strictStart, start, phase]

/-- **Nothing is relied on that is not so**, as long as the messages of a handshake that waits can
be made up. -/
theorem strictAnswer_eq (isEquipped : h.IsEquipped) (call : Call) :
    h.strictAnswer call = .ok (h.answer call) := by
  cases call with
  | start => exact h.strictStart_eq
  | feed bytes => exact strictFeed_eq isEquipped bytes

/-! ### What is known while a handshake waits -/

section

variable (target : HostPort) (credentials : Option Credentials) (calls : List Call)

/-- After any calls, a handshake that waits for an answer has sent the messages up to its stage, and
can make up all others. -/
theorem equipped_of_waiting {stage : Stage} {held : Bytes}
    (phase : (run { target, credentials } calls).phase = .waiting stage held) :
    (∃ request, Equipped (run { target, credentials } calls) request) ∧
      ∃ answered sent, Sent credentials target stage answered sent := by
  obtain ⟨request, answered, _, -, equipped, isSent, -⟩ :=
    (account_of_run target credentials calls).of_waiting phase
  obtain ⟨same, same'⟩ := configuration_run { target, credentials } calls
  rw [same, same'] at isSent
  exact ⟨⟨request, equipped⟩, answered, _, isSent⟩

theorem isEquipped_run : (run { target, credentials } calls).IsEquipped := fun _ _ phase =>
  (equipped_of_waiting target credentials calls phase).1

end

/-! ### Main statement -/

/-- **Nothing is relied on that is not so**, in whatever order a new handshake is called. While it
waits for an answer there is a CONNECT request for its target, a user and a password fit their
length bytes, and in the authentication there are a user and a password. Every call has a result
when it is done strictly, and it is the same one. No strict call tells that the handshake fails
because it is in a state that is not known. -/
theorem relies_on_what_holds (target : HostPort) (credentials : Option Credentials)
    (calls : List Call) :
    let h := run { target, credentials } calls
    (∀ stage held, h.phase = .waiting stage held →
      (∃ request, connectRequest? h.target = some request) ∧
      (∀ c, h.credentials = some c → c.username.length ≤ 255 ∧ c.password.length ≤ 255) ∧
      (stage = .authenticating → ∃ c, h.credentials = some c)) ∧
    (∀ call, h.strictAnswer call = .ok (h.answer call)) ∧
    ∀ call text, failureText? (h.strictAnswer call) = some text →
      ¬ ascii "Unknown SOCKS5 state" <+: text := by
  intro h
  have strictly := strictAnswer_eq (isEquipped_run target credentials calls)
  refine ⟨fun stage held phase => ?_, strictly, fun call text told => ?_⟩
  · obtain ⟨⟨request, fits, encodes⟩, _, _, isSent⟩ :=
      equipped_of_waiting target credentials calls phase
    refine ⟨⟨request, encodes⟩, credentialsFit_iff.1 fits, ?_⟩
    rintro rfl
    cases isSent with
    | authenticating has =>
      exact ⟨_, (configuration_run { target, credentials } calls).2.trans has⟩
  · rw [strictly] at told
    exact not_unknownState_of_ok told

/-- The server has asked for the user and password, and a verdict on them comes in. -/
theorem relies_on_what_holds_of_verdict :
    let h := run { target := ⟨ascii "10.0.0.1", 443⟩, credentials := some ⟨[0x75], [0x70]⟩ }
      [.start, .feed [5], .feed [2]]
    h.phase = .waiting .authenticating [] ∧ (∃ c, h.credentials = some c) ∧
      h.strictAnswer (.feed [1, 0]) = .ok (.emit [5, 1, 0, 1, 10, 0, 0, 1, 1, 0xBB],
        h.awaiting .connecting) := by
  intro h
  have phase : h.phase = .waiting .authenticating [] := by decide +kernel
  obtain ⟨waits, strictly, -⟩ := relies_on_what_holds ⟨ascii "10.0.0.1", 443⟩
    (some ⟨[0x75], [0x70]⟩) [.start, .feed [5], .feed [2]]
  refine ⟨phase, (waits _ _ phase).2.2 rfl, (strictly (.feed [1, 0])).trans ?_⟩
  exact congrArg Except.ok (by decide +kernel)

/-- Without a check at the start, a request that does not exist would be sent. -/
example : strictAnswer { target := ⟨[], 80⟩, credentials := none, phase := .waiting .greeting [] }
    (.feed [5, 0]) = .error (.noRequest []) := by rfl

end Handshake

end ProxyRouting.Socks5
