import Mathlib.Tactic.ByContra
import Mathlib.Tactic.SplitIfs
import ProxyRouting.Socks5.Handshake

/-!
# Good answers of a server

`Transcript` says what a server sends until a tunnel is established. Here a transcript is
taken apart into the answers that a handshake waits for one after another: `Good` are the
answers that let it go on from a stage, and `Before` are those that lead to the stage.

The main statement is `receive_of_not_good`: bytes that do not begin with a good answer either
may still become one, or are too few to be judged, and then the handshake waits; or they are
enough to be judged, and then it fails.
-/

namespace ProxyRouting.Socks5

/-! ### Addresses and ports -/

/-- The address and the port of a CONNECT reply. -/
def Bound (kind : UInt8) (bytes : Bytes) : Prop :=
  ∃ address port, BoundAddress kind address ∧ port.length = 2 ∧ bytes = address ++ port

theorem bound_ipv4_iff {bytes : Bytes} : Bound typeIPv4 bytes ↔ bytes.length = 4 + 2 := by
  constructor
  · rintro ⟨address, port, bound, two, rfl⟩
    generalize kind_eq : typeIPv4 = kind at bound
    cases bound with
    | ipv4 four => rw [List.length_append, four, two]
    | ipv6 _ => exact absurd kind_eq (by decide)
    | domain _ => exact absurd kind_eq (by decide)
  · intro six
    refine ⟨bytes.take 4, bytes.drop 4, .ipv4 ?_, ?_, (List.take_append_drop 4 bytes).symm⟩
    · rw [List.length_take]
      omega
    · rw [List.length_drop]
      omega

theorem bound_ipv6_iff {bytes : Bytes} : Bound typeIPv6 bytes ↔ bytes.length = 16 + 2 := by
  constructor
  · rintro ⟨address, port, bound, two, rfl⟩
    generalize kind_eq : typeIPv6 = kind at bound
    cases bound with
    | ipv4 _ => exact absurd kind_eq (by decide)
    | ipv6 sixteen => rw [List.length_append, sixteen, two]
    | domain _ => exact absurd kind_eq (by decide)
  · intro eighteen
    refine ⟨bytes.take 16, bytes.drop 16, .ipv6 ?_, ?_, (List.take_append_drop 16 bytes).symm⟩
    · rw [List.length_take]
      omega
    · rw [List.length_drop]
      omega

theorem bound_domain_iff {bytes : Bytes} :
    Bound typeDomain bytes ↔
      ∃ (length : UInt8) (rest : Bytes),
        bytes = length :: rest ∧ rest.length = length.toNat + 2 := by
  constructor
  · rintro ⟨address, port, bound, two, rfl⟩
    generalize kind_eq : typeDomain = kind at bound
    cases bound with
    | ipv4 _ => exact absurd kind_eq (by decide)
    | ipv6 _ => exact absurd kind_eq (by decide)
    | @domain length name fits =>
      exact ⟨length, name ++ port, rfl, by rw [List.length_append, fits, two]⟩
  · rintro ⟨length, rest, rfl, fits⟩
    refine ⟨length :: rest.take length.toNat, rest.drop length.toNat, .domain ?_, ?_, ?_⟩
    · rw [List.length_take]
      omega
    · rw [List.length_drop]
      omega
    · rw [List.cons_append, List.take_append_drop]

/-- There are three types of addresses. -/
theorem Bound.kind {kind : UInt8} {bytes : Bytes} (bound : Bound kind bytes) :
    kind = typeIPv4 ∨ kind = typeIPv6 ∨ kind = typeDomain := by
  obtain ⟨address, port, bound, -, -⟩ := bound
  cases bound with
  | ipv4 _ => exact Or.inl rfl
  | ipv6 _ => exact Or.inr (Or.inl rfl)
  | domain _ => exact Or.inr (Or.inr rfl)

theorem skip_append_of_length {count : Nat} {bytes : Bytes} (rest : Bytes)
    (length : bytes.length = count) : skip count (bytes ++ rest) = .complete () rest := by
  have enough : ¬ (bytes ++ rest).length < count := by
    rw [List.length_append]
    omega
  rw [skip, if_neg enough, ← length, List.drop_left]

theorem skip_of_lt {count : Nat} {bytes : Bytes} (few : bytes.length < count) :
    skip count bytes = .incomplete := if_pos few

/-- Some bytes that are too few can be made as many as one wants. -/
theorem exists_append_length {count : Nat} {bytes : Bytes} (few : bytes.length < count) :
    ∃ more : Bytes, (bytes ++ more).length = count :=
  ⟨List.replicate (count - bytes.length) 0, by
    rw [List.length_append, List.length_replicate]
    omega⟩

theorem scanBound_append_of_bound {kind : UInt8} {bytes : Bytes} (rest : Bytes)
    (bound : Bound kind bytes) : scanBound kind (bytes ++ rest) = .complete () rest := by
  rcases bound.kind with rfl | rfl | rfl
  · exact skip_append_of_length rest (bound_ipv4_iff.1 bound)
  · exact skip_append_of_length rest (bound_ipv6_iff.1 bound)
  · obtain ⟨length, name, rfl, fits⟩ := bound_domain_iff.1 bound
    exact skip_append_of_length rest fits

/-- If bytes do not begin with an address and a port, they are too few, or nothing is known
of the type. -/
theorem scanBound_of_not_bound {kind : UInt8} {bytes : Bytes}
    (other : ∀ bound, Bound kind bound → ¬ bound <+: bytes) :
    (scanBound kind bytes = .incomplete ∧ ∃ more, Bound kind (bytes ++ more)) ∨
      (∃ error, scanBound kind bytes = .invalid error) ∧ ∀ bound, ¬ Bound kind bound := by
  -- As many bytes as are skipped would be an address and a port.
  have few {count : Nat} {rest : Bytes}
      (wrong : (rest.take count).length = count → False) : rest.length < count := by
    by_contra enough
    exact wrong (by rw [List.length_take]; omega)
  by_cases ipv4 : kind = typeIPv4
  · subst ipv4
    have short : bytes.length < 4 + 2 :=
      few fun length => other _ (bound_ipv4_iff.2 length) (List.take_prefix _ _)
    obtain ⟨more, length⟩ := exists_append_length short
    exact Or.inl ⟨skip_of_lt short, more, bound_ipv4_iff.2 length⟩
  by_cases ipv6 : kind = typeIPv6
  · subst ipv6
    have short : bytes.length < 16 + 2 :=
      few fun length => other _ (bound_ipv6_iff.2 length) (List.take_prefix _ _)
    obtain ⟨more, length⟩ := exists_append_length short
    exact Or.inl ⟨skip_of_lt short, more, bound_ipv6_iff.2 length⟩
  by_cases domain : kind = typeDomain
  · subst domain
    cases bytes with
    | nil =>
      exact Or.inl ⟨rfl, 0 :: [0, 0], bound_domain_iff.2 ⟨0, [0, 0], rfl, rfl⟩⟩
    | cons length rest =>
      have short : rest.length < length.toNat + 2 :=
        few fun fits => other (length :: rest.take (length.toNat + 2))
          (bound_domain_iff.2 ⟨length, _, rfl, fits⟩)
          (List.cons_prefix_cons.2 ⟨rfl, List.take_prefix _ _⟩)
      obtain ⟨more, fits⟩ := exists_append_length short
      exact Or.inl ⟨skip_of_lt short, more, bound_domain_iff.2 ⟨length, _, rfl, fits⟩⟩
  · right
    refine ⟨⟨.unsupportedAddressType kind, ?_⟩, ?_⟩
    · unfold scanBound
      rw [if_neg ipv4, if_neg ipv6, if_neg domain]
    · intro bound isBound
      rcases isBound.kind with eq | eq | eq
      · exact ipv4 eq
      · exact ipv6 eq
      · exact domain eq

theorem reply_iff {bytes : Bytes} :
    Reply bytes ↔ ∃ kind bound, Bound kind bound ∧ bytes = [version, 0, 0, kind] ++ bound := by
  constructor
  · rintro ⟨address, port⟩
    exact ⟨_, _, ⟨_, _, address, port, rfl⟩, by rw [List.append_assoc]⟩
  · rintro ⟨kind, bound, ⟨address, port, isAddress, two, rfl⟩, rfl⟩
    rw [← List.append_assoc]
    exact .mk isAddress two

/-! ### What a scan finds -/

/-- The byte with which a server chooses a method. -/
def Method.code : Method → UInt8
  | .none => methodNone
  | .password => methodPassword

theorem eq_of_scanMethod {bytes rest : Bytes} {method : Method}
    (scan : scanMethod bytes = .complete method rest) : bytes = [version, method.code] ++ rest := by
  unfold scanMethod at scan
  split at scan
  · next v code behind =>
    split_ifs at scan with v_ne none_acceptable password plain
    · cases scan
      rw [not_not.1 v_ne, password]
      rfl
    · cases scan
      rw [not_not.1 v_ne, plain]
      rfl
  · cases scan

theorem eq_of_scanAuthentication {bytes rest : Bytes}
    (scan : scanAuthentication bytes = .complete () rest) :
    bytes = [Socks5.authenticationVersion, 0] ++ rest := by
  unfold scanAuthentication at scan
  split at scan
  · next v status behind =>
    split_ifs at scan with v_ne status_ne
    cases scan
    rw [not_not.1 v_ne, not_not.1 status_ne]
    rfl
  · cases scan

/-- A choice of a method is judged when its two bytes are there. -/
theorem scanMethod_ne_incomplete {bytes : Bytes} (enough : 2 ≤ bytes.length) :
    scanMethod bytes ≠ .incomplete := by
  intro scan
  match bytes with
  | [] | [_] => exact absurd enough (by simp)
  | v :: method :: rest =>
    simp only [scanMethod] at scan
    split_ifs at scan

/-- So is a verdict on the user and password. -/
theorem scanAuthentication_ne_incomplete {bytes : Bytes} (enough : 2 ≤ bytes.length) :
    scanAuthentication bytes ≠ .incomplete := by
  intro scan
  match bytes with
  | [] | [_] => exact absurd enough (by simp)
  | v :: status :: rest =>
    simp only [scanAuthentication] at scan
    split_ifs at scan

/-- A CONNECT reply with a good header is judged by its address, and any other is wrong. -/
theorem scanConnect_cases (target : HostPort) (v code reserved kind : UInt8) (rest : Bytes) :
    ([v, code, reserved] = [version, 0, 0] ∧
        scanConnect target (v :: code :: reserved :: kind :: rest) = scanBound kind rest) ∨
      [v, code, reserved] ≠ [version, 0, 0] ∧
        ∃ error, scanConnect target (v :: code :: reserved :: kind :: rest) = .invalid error := by
  unfold scanConnect
  dsimp only
  split_ifs with v_ne code_ne reserved_ne
  · exact Or.inr ⟨fun eq => v_ne (List.cons.inj eq).1, _, rfl⟩
  · exact Or.inr ⟨fun eq => code_ne (by simp_all), _, rfl⟩
  · exact Or.inr ⟨fun eq => reserved_ne (by simp_all), _, rfl⟩
  · left
    rw [not_not.1 v_ne, not_not.1 code_ne, not_not.1 reserved_ne]
    exact ⟨rfl, rfl⟩

/-- A CONNECT reply is judged when its address and port are there. -/
theorem scanConnect_ne_incomplete (target : HostPort) (v code reserved : UInt8) {kind : UInt8}
    {bound : Bytes} (rest : Bytes) (isBound : Bound kind bound) :
    scanConnect target ([v, code, reserved, kind] ++ bound ++ rest) ≠ .incomplete := by
  intro incomplete
  rcases scanConnect_cases target v code reserved kind (bound ++ rest) with ⟨-, scan⟩ |
    ⟨-, error, scan⟩
  · rw [scanBound_append_of_bound rest isBound] at scan
    cases scan.symm.trans incomplete
  · cases scan.symm.trans incomplete

/-! ### Answers by stage -/

/-- The good answers in a stage, to a client with or without a user and password. -/
inductive Good (hasCredentials : Bool) : Stage → Bytes → Prop
  /-- The method without authentication. -/
  | plain : Good hasCredentials .greeting [version, methodNone]
  /-- The method with a user and a password, for a client that has them. -/
  | password : hasCredentials = true → Good hasCredentials .greeting [version, methodPassword]
  /-- The user and password are accepted. -/
  | accepted : Good hasCredentials .authenticating [Socks5.authenticationVersion, 0]
  /-- The connection to the target is made. -/
  | reply {reply : Bytes} : Reply reply → Good hasCredentials .connecting reply

/-- The good answers that lead to a stage. -/
inductive Before (hasCredentials : Bool) : Stage → Bytes → Prop
  /-- There are none at the beginning. -/
  | greeting : Before hasCredentials .greeting []
  /-- The method with a user and a password. -/
  | authenticating : hasCredentials = true →
      Before hasCredentials .authenticating [version, methodPassword]
  /-- The method without authentication. -/
  | plain : Before hasCredentials .connecting [version, methodNone]
  /-- The user and password are asked for and accepted. -/
  | password : hasCredentials = true →
      Before hasCredentials .connecting
        [version, methodPassword, Socks5.authenticationVersion, 0]

/-- The complete answers in a stage, good or not. -/
inductive Whole : Stage → Bytes → Prop
  /-- The choice of a method. -/
  | method (v method : UInt8) : Whole .greeting [v, method]
  /-- The verdict on the user and password. -/
  | verdict (v status : UInt8) : Whole .authenticating [v, status]
  /-- A header, an address and a port. -/
  | reply (v code reserved : UInt8) {kind : UInt8} {bound : Bytes} : Bound kind bound →
      Whole .connecting ([v, code, reserved, kind] ++ bound)

/-- How many bytes of an answer are judged as a whole: those of the fixed header. -/
def Stage.headerLength : Stage → Nat
  | .greeting => 2
  | .authenticating => 2
  | .connecting => 4

/-- The answers before the CONNECT reply are nothing but a header. -/
theorem Good.length {hasCredentials : Bool} {stage : Stage} {good : Bytes}
    (isGood : Good hasCredentials stage good) (early : stage ≠ .connecting) :
    good.length = stage.headerLength := by
  cases isGood with
  | plain => rfl
  | password _ => rfl
  | accepted => rfl
  | reply _ => exact absurd rfl early

/-- As many bytes as a good answer has are its beginning only if they begin with it. -/
theorem not_prefix_of_length {good held : Bytes} (enough : good.length ≤ held.length)
    (other : ¬ good <+: held) : ¬ held <+: good := by
  intro begins
  have same : held = good := begins.eq_of_length (Nat.le_antisymm begins.length_le enough)
  exact other (same ▸ List.prefix_rfl)

/-- A transcript is what leads to the CONNECT reply, and the reply. -/
theorem transcript_iff {hasCredentials : Bool} {bytes : Bytes} :
    Transcript hasCredentials bytes ↔
      ∃ answered reply, Before hasCredentials .connecting answered ∧ Reply reply ∧
        bytes = answered ++ reply := by
  constructor
  · rintro (reply | ⟨has, reply⟩)
    · exact ⟨_, _, .plain, reply, rfl⟩
    · exact ⟨_, _, .password has, reply, rfl⟩
  · rintro ⟨answered, reply, before, isReply, rfl⟩
    cases before with
    | plain => exact .plain isReply
    | password has => exact .password has isReply

theorem Good.ne_nil {hasCredentials : Bool} {stage : Stage} {good : Bytes}
    (isGood : Good hasCredentials stage good) : good ≠ [] := by
  cases isGood with
  | reply isReply =>
    obtain ⟨kind, bound, -, rfl⟩ := reply_iff.1 isReply
    exact List.cons_ne_nil _ _
  | _ => exact List.cons_ne_nil _ _

/-- A good answer leads to the next stage or completes the transcript. -/
theorem Before.append_good {hasCredentials : Bool} {stage : Stage} {answered good : Bytes}
    (before : Before hasCredentials stage answered) (isGood : Good hasCredentials stage good) :
    Transcript hasCredentials (answered ++ good) ∨
      ∃ next, Before hasCredentials next (answered ++ good) := by
  cases isGood with
  | plain =>
    cases before
    exact Or.inr ⟨_, .plain⟩
  | password has =>
    cases before
    exact Or.inr ⟨_, .authenticating has⟩
  | accepted =>
    cases before with
    | authenticating has => exact Or.inr ⟨_, .password has⟩
  | reply isReply => exact Or.inl (transcript_iff.2 ⟨answered, good, before, isReply, rfl⟩)

/-- The header of an answer decides: with a header that a good answer may have, the bytes begin
with a good answer or are the beginning of one. -/
theorem Good.of_header {hasCredentials : Bool} {stage : Stage} {good held : Bytes}
    (isGood : Good hasCredentials stage good) (enough : stage.headerLength ≤ held.length)
    (header : held.take stage.headerLength <+: good) :
    (∃ good', Good hasCredentials stage good' ∧ good' <+: held) ∨
      ∃ good', Good hasCredentials stage good' ∧ held <+: good' := by
  by_cases early : stage ≠ .connecting
  · have length : (held.take stage.headerLength).length = good.length := by
      rw [isGood.length early, List.length_take]
      omega
    left
    refine ⟨good, isGood, ?_⟩
    rw [← header.eq_of_length length]
    exact List.take_prefix _ _
  · obtain rfl := not_not.1 early
    match held with
    | [] | [_] | [_, _] | [_, _, _] => exact absurd enough (by simp [Stage.headerLength])
    | v :: code :: reserved :: kind :: rest =>
      obtain _ | _ | _ | isReply := isGood
      obtain ⟨kind', bound, isBound, rfl⟩ := reply_iff.1 isReply
      simp only [Stage.headerLength, List.take_succ_cons, List.take_zero, List.cons_append,
        List.nil_append, List.cons_prefix_cons] at header
      obtain ⟨rfl, rfl, rfl, rfl, -⟩ := header
      have reply {bound : Bytes} (isBound : Bound kind bound) :
          Good hasCredentials .connecting ([version, 0, 0, kind] ++ bound) :=
        .reply (reply_iff.2 ⟨kind, bound, isBound, rfl⟩)
      by_cases whole : ∃ bound', Bound kind bound' ∧ bound' <+: rest
      · obtain ⟨bound', isBound', behind, rfl⟩ := whole
        exact Or.inl ⟨_, reply isBound', behind, rfl⟩
      · have no_bound (bound' : Bytes) (isBound' : Bound kind bound') : ¬ bound' <+: rest :=
          fun begins => whole ⟨bound', isBound', begins⟩
        rcases scanBound_of_not_bound no_bound with ⟨-, more, isBound'⟩ | ⟨-, unknown⟩
        · exact Or.inr ⟨_, reply isBound', more, rfl⟩
        · exact absurd isBound (unknown bound)

/-! ### Bytes without a good answer -/

namespace Handshake

/-- How a handshake takes the bytes of an answer that is not there as a good one: it waits
if they may still become one or are fewer than a header, and fails if they cannot become
one and the header is there. -/
def Judges (h : Handshake) (stage : Stage) (held : Bytes) : Prop :=
  (h.receive stage held = h.needMore stage held ∧
      (held.length < stage.headerLength ∨
        ∃ good, Good h.credentials.isSome stage good ∧ held <+: good)) ∨
    (∃ error, h.receive stage held = h.fail error) ∧ stage.headerLength ≤ held.length ∧
      ∀ good, Good h.credentials.isSome stage good → ¬ held <+: good

variable {h : Handshake} {stage : Stage} {held : Bytes}

/-- An answer that is nothing but a header cannot become good when its header is there. -/
theorem judges_of_fail (error : Error) (fails : h.receive stage held = h.fail error)
    (early : stage ≠ .connecting) (enough : stage.headerLength ≤ held.length)
    (other : ∀ good, Good h.credentials.isSome stage good → ¬ good <+: held) :
    h.Judges stage held := by
  refine Or.inr ⟨⟨error, fails⟩, enough, fun good isGood => ?_⟩
  refine not_prefix_of_length ?_ (other good isGood)
  rw [isGood.length early]
  exact enough

/-- Fewer bytes than those of a header are not judged. -/
theorem receive_of_lt (h : Handshake) (few : held.length < stage.headerLength) :
    h.receive stage held = h.needMore stage held := by
  cases stage with
  | greeting =>
    match held with
    | [] | [_] => rfl
    | _ :: _ :: _ => exact absurd few (by simp [Stage.headerLength])
  | authenticating =>
    match held with
    | [] | [_] => rfl
    | _ :: _ :: _ => exact absurd few (by simp [Stage.headerLength])
  | connecting =>
    match held with
    | [] | [_] | [_, _] | [_, _, _] => rfl
    | _ :: _ :: _ :: _ :: _ => exact absurd few (by simp [Stage.headerLength])

theorem judges_greeting (enough : Stage.greeting.headerLength ≤ held.length)
    (other : ∀ good, Good h.credentials.isSome .greeting good → ¬ good <+: held) :
    h.Judges .greeting held := by
  rcases scan : scanMethod held with _ | error | ⟨method, rest⟩
  · exact absurd scan (scanMethod_ne_incomplete enough)
  · refine judges_of_fail error ?_ (by decide) enough other
    simp only [receive, receiveMethod, scan]
  · have begins : [version, method.code] <+: held := ⟨rest, (eq_of_scanMethod scan).symm⟩
    cases method with
    | none => exact absurd begins (other _ .plain)
    | password =>
      cases has : h.credentials with
      | none =>
        refine judges_of_fail .credentialsRequired ?_ (by decide) enough other
        simp only [receive, receiveMethod, scan, has]
      | some credentials => exact absurd begins (other _ (.password (by rw [has]; rfl)))

theorem judges_authenticating (enough : Stage.authenticating.headerLength ≤ held.length)
    (other : ∀ good, Good h.credentials.isSome .authenticating good → ¬ good <+: held) :
    h.Judges .authenticating held := by
  rcases scan : scanAuthentication held with _ | error | ⟨_, rest⟩
  · exact absurd scan (scanAuthentication_ne_incomplete enough)
  · refine judges_of_fail error ?_ (by decide) enough other
    simp only [receive, receiveVerdict, scan]
  · have begins : [Socks5.authenticationVersion, 0] <+: held :=
      ⟨rest, (eq_of_scanAuthentication scan).symm⟩
    exact absurd begins (other _ .accepted)

theorem judges_connecting (enough : Stage.connecting.headerLength ≤ held.length)
    (other : ∀ good, Good h.credentials.isSome .connecting good → ¬ good <+: held) :
    h.Judges .connecting held := by
  match held with
  | [] | [_] | [_, _] | [_, _, _] => exact absurd enough (by simp [Stage.headerLength])
  | v :: code :: reserved :: kind :: rest =>
    -- A wrong reply is refused, and no good reply begins with it.
    have fails {error : Error}
        (scan : scanConnect h.target (v :: code :: reserved :: kind :: rest) = .invalid error)
        (wrong : ∀ bound, [v, code, reserved] = [version, 0, 0] → ¬ Bound kind bound) :
        h.Judges .connecting (v :: code :: reserved :: kind :: rest) := by
      refine Or.inr ⟨⟨error, by simp only [receive, receiveReply, scan]⟩, enough, ?_⟩
      rintro good (_ | _ | _ | isReply) begins
      obtain ⟨kind', bound, isBound, rfl⟩ := reply_iff.1 isReply
      simp only [List.cons_append, List.nil_append, List.cons_prefix_cons] at begins
      obtain ⟨rfl, rfl, rfl, rfl, -⟩ := begins
      exact wrong bound rfl isBound
    rcases scanConnect_cases h.target v code reserved kind rest with ⟨header, scan⟩ |
      ⟨header, error, scan⟩
    · simp only [List.cons.injEq, and_true] at header
      obtain ⟨rfl, rfl, rfl⟩ := header
      have no_bound : ∀ bound, Bound kind bound → ¬ bound <+: rest := by
        rintro bound isBound ⟨behind, rfl⟩
        exact other _ (.reply (reply_iff.2 ⟨kind, bound, isBound, rfl⟩)) ⟨behind, rfl⟩
      rcases scanBound_of_not_bound no_bound with ⟨incomplete, more, isBound⟩ |
        ⟨⟨error, invalid⟩, unknown⟩
      · refine Or.inl ⟨?_, Or.inr ⟨_, .reply (reply_iff.2 ⟨kind, _, isBound, rfl⟩), more, rfl⟩⟩
        simp only [receive, receiveReply, scan, incomplete]
      · exact fails (scan.trans invalid) fun bound _ => unknown bound
    · exact fails scan fun _ same => absurd same header

/-- **Bytes without a good answer**: the handshake waits if they may still become one or are
fewer than a header, and fails otherwise. -/
theorem receive_of_not_good
    (other : ∀ good, Good h.credentials.isSome stage good → ¬ good <+: held) :
    h.Judges stage held := by
  by_cases few : held.length < stage.headerLength
  · exact Or.inl ⟨receive_of_lt h few, Or.inl few⟩
  have enough : stage.headerLength ≤ held.length := Nat.le_of_not_lt few
  cases stage with
  | greeting => exact judges_greeting enough other
  | authenticating => exact judges_authenticating enough other
  | connecting => exact judges_connecting enough other

/-- A handshake that waits holds no complete answer. -/
theorem not_whole_of_needMore (waits : (h.receive stage held).1 = .needMore) {answer : Bytes}
    (whole : Whole stage answer) : ¬ answer <+: held := by
  rintro ⟨rest, rfl⟩
  cases whole with
  | method v method =>
    simp only [List.cons_append, List.nil_append, receive, receiveMethod] at waits
    split at waits
    · next scan => exact scanMethod_ne_incomplete (by simp) scan
    · cases waits
    · exact h.emitConnect_ne_needMore _ waits
    · split at waits <;> cases waits
  | verdict v status =>
    simp only [List.cons_append, List.nil_append, receive, receiveVerdict] at waits
    split at waits
    · next scan => exact scanAuthentication_ne_incomplete (by simp) scan
    · cases waits
    · exact h.emitConnect_ne_needMore _ waits
  | @reply v code reserved kind bound isBound =>
    simp only [receive, receiveReply] at waits
    split at waits
    · next scan => exact scanConnect_ne_incomplete h.target v code reserved rest isBound scan
    · cases waits
    · cases waits

end Handshake

end ProxyRouting.Socks5
