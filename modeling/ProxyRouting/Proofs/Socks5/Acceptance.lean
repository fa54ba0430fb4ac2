import Mathlib.Data.Nat.Find
import Mathlib.Tactic.ByContra
import ProxyRouting.Proofs.Socks5.Dialogue
import ProxyRouting.Proofs.Socks5.Grammar

/-!
# What a handshake accepts

A started handshake that a server's bytes are poured into establishes the tunnel exactly if
the bytes begin with a transcript. It waits as long as the bytes may become one, and
otherwise fails as soon as the header of the wrong answer is there
(`pour_accepts_transcripts`). All this does not depend on how the bytes arrive
(`deliver_eq_of_same_bytes`).
-/

namespace ProxyRouting.Socks5

/-! ### Bytes and transcripts -/

variable {hasCredentials : Bool} {stage : Stage} {answered held bytes : Bytes}

/-- The bytes begin with a transcript. -/
def Accepted (hasCredentials : Bool) (bytes : Bytes) : Prop :=
  ∃ transcript, Transcript hasCredentials transcript ∧ transcript <+: bytes

/-- The bytes are the beginning of a transcript. -/
def Viable (hasCredentials : Bool) (bytes : Bytes) : Prop :=
  ∃ transcript, Transcript hasCredentials transcript ∧ bytes <+: transcript

/-- The byte at an index is the first with which the bytes are no beginning of a transcript
any more. -/
structure FaultAt (hasCredentials : Bool) (bytes : Bytes) (index : Nat) : Prop where
  /-- There is such a byte. -/
  inside : index < bytes.length
  /-- Those before it are the beginning of a transcript. -/
  viable : Viable hasCredentials (bytes.take index)
  /-- With it they are not. -/
  wrong : ¬ Viable hasCredentials (bytes.take (index + 1))

/-- The first wrong byte lies in the header of the answer of a stage, of which the bytes `held`
are there. -/
def FaultIn (hasCredentials : Bool) (bytes : Bytes) (stage : Stage) (held : Bytes) : Prop :=
  ∃ index answered, FaultAt hasCredentials bytes index ∧ Before hasCredentials stage answered ∧
    bytes = answered ++ held ∧ answered.length ≤ index ∧
    index < answered.length + stage.headerLength

theorem Viable.of_begins {other : Bytes} (viable : Viable hasCredentials other)
    (begins : bytes <+: other) : Viable hasCredentials bytes := by
  obtain ⟨transcript, isTranscript, longer⟩ := viable
  exact ⟨transcript, isTranscript, begins.trans longer⟩

/-- A transcript can follow from any stage. -/
theorem Before.viable (before : Before hasCredentials stage answered) :
    Viable hasCredentials answered := by
  have reply : Reply ([version, 0, 0, typeIPv4] ++ [0, 0, 0, 0, 0, 0]) :=
    reply_iff.2 ⟨_, _, bound_ipv4_iff.2 rfl, rfl⟩
  cases before with
  | greeting => exact ⟨_, .plain reply, List.nil_prefix⟩
  | authenticating has => exact ⟨_, .password has reply, ⟨_, rfl⟩⟩
  | plain => exact ⟨_, .plain reply, List.prefix_append _ _⟩
  | password has => exact ⟨_, .password has reply, List.prefix_append _ _⟩

theorem Before.viable_append (before : Before hasCredentials stage answered) {good : Bytes}
    (isGood : Good hasCredentials stage good) : Viable hasCredentials (answered ++ good) := by
  rcases before.append_good isGood with isTranscript | ⟨next, later⟩
  · exact ⟨_, isTranscript, List.prefix_rfl⟩
  · exact later.viable

/-- Bytes that may become a transcript go on with a good answer or with the beginning of one. -/
theorem good_of_viable (before : Before hasCredentials stage answered)
    (viable : Viable hasCredentials (answered ++ held)) :
    (∃ good, Good hasCredentials stage good ∧ good <+: held) ∨
      ∃ good, Good hasCredentials stage good ∧ held <+: good := by
  obtain ⟨transcript, isTranscript, begins⟩ := viable
  -- Of two beginnings of the same bytes one is the beginning of the other.
  have compare {good rest : Bytes} (isGood : Good hasCredentials stage good)
      (begins : held <+: good ++ rest) :
      (∃ good, Good hasCredentials stage good ∧ good <+: held) ∨
        ∃ good, Good hasCredentials stage good ∧ held <+: good := by
    rcases List.prefix_or_prefix_of_prefix begins (List.prefix_append good rest) with less | more
    · exact Or.inr ⟨good, isGood, less⟩
    · exact Or.inl ⟨good, isGood, more⟩
  cases before with
  | greeting =>
    rcases isTranscript with reply | ⟨has, reply⟩
    · exact compare .plain begins
    · exact compare (.password has) begins
  | authenticating has =>
    rcases isTranscript with reply | ⟨_, reply⟩
    · simp only [List.cons_append, List.nil_append, List.cons_prefix_cons] at begins
      exact absurd begins.2.1 (by decide)
    · simp only [List.cons_append, List.nil_append, List.cons_prefix_cons, true_and] at begins
      exact compare .accepted begins
  | plain =>
    rcases isTranscript with reply | ⟨_, reply⟩
    · simp only [List.cons_append, List.nil_append, List.cons_prefix_cons, true_and] at begins
      exact Or.inr ⟨_, .reply reply, begins⟩
    · simp only [List.cons_append, List.nil_append, List.cons_prefix_cons] at begins
      exact absurd begins.2.1 (by decide)
  | password has =>
    rcases isTranscript with reply | ⟨_, reply⟩
    · simp only [List.cons_append, List.nil_append, List.cons_prefix_cons] at begins
      exact absurd begins.2.1 (by decide)
    · simp only [List.cons_append, List.nil_append, List.cons_prefix_cons, true_and] at begins
      exact Or.inr ⟨_, .reply reply, begins⟩

/-- Bytes that go on from a stage begin with a transcript, or good answers lead to a stage whose
good answer they lack. The proof takes one good answer after another off the bytes. -/
theorem accepted_or_before {stage : Stage} {answered : Bytes}
    (before : Before hasCredentials stage answered) (held : Bytes) :
    Accepted hasCredentials (answered ++ held) ∨
      ∃ next answered' held', Before hasCredentials next answered' ∧
        answered ++ held = answered' ++ held' ∧
        ∀ good, Good hasCredentials next good → ¬ good <+: held' := by
  by_cases more : ∃ good, Good hasCredentials stage good ∧ good <+: held
  · obtain ⟨good, isGood, rest, rfl⟩ := more
    rw [← List.append_assoc]
    rcases before.append_good isGood with isTranscript | ⟨next, later⟩
    · exact Or.inl ⟨_, isTranscript, List.prefix_append _ _⟩
    · have shorter : rest.length < (good ++ rest).length := by
        have := List.length_pos_iff.2 isGood.ne_nil
        rw [List.length_append]
        omega
      exact accepted_or_before later rest
  · exact Or.inr ⟨stage, answered, held, before, rfl, fun good isGood begins =>
      more ⟨good, isGood, begins⟩⟩
termination_by held.length

/-- Bytes that neither begin with a transcript nor may become one have a first wrong byte, and
it lies in the header of an answer. -/
theorem exists_faultIn (refused : ¬ Accepted hasCredentials bytes)
    (wrong : ¬ Viable hasCredentials bytes) :
    ∃ stage held, FaultIn hasCredentials bytes stage held := by
  classical
  rcases accepted_or_before .greeting bytes with accepted |
    ⟨stage, answered, held, before, eq, other⟩
  · exact absurd accepted refused
  rw [List.nil_append] at eq
  have exists_wrong : ∃ index, ¬ Viable hasCredentials (bytes.take (index + 1)) :=
    ⟨bytes.length, by rwa [List.take_of_length_le (Nat.le_succ _)]⟩
  let index := Nat.find exists_wrong
  have first : ¬ Viable hasCredentials (bytes.take (index + 1)) := Nat.find_spec exists_wrong
  have earlier {count : Nat} (le : count ≤ index) : Viable hasCredentials (bytes.take count) := by
    cases count with
    | zero => exact (Before.greeting).viable
    | succ count => exact not_not.1 (Nat.find_min exists_wrong le)
  have inside : index < bytes.length := by
    by_contra outside
    have viable := earlier (Nat.le_refl index)
    rw [List.take_of_length_le (Nat.le_of_not_lt outside)] at viable
    exact wrong viable
  refine ⟨stage, held, index, answered, ⟨inside, earlier (Nat.le_refl _), first⟩, before, eq,
    ?_, ?_⟩
  · by_contra inAnswered
    refine first (before.viable.of_begins ?_)
    rw [eq, List.take_append_of_le_length (by omega)]
    exact List.take_prefix _ _
  · by_contra behind
    have enough : stage.headerLength ≤ held.length := by
      rw [eq, List.length_append] at inside
      omega
    have viable := earlier (Nat.le_of_not_lt behind)
    rw [eq, List.take_length_add_append] at viable
    rcases good_of_viable before viable with ⟨good, isGood, begins⟩ | ⟨good, isGood, begins⟩
    · exact other good isGood (begins.trans (List.take_prefix _ _))
    · rcases isGood.of_header enough begins with ⟨good', isGood', begins'⟩ |
        ⟨good', isGood', begins'⟩
      · exact other good' isGood' begins'
      · refine wrong ((before.viable_append isGood').of_begins ?_)
        rw [eq]
        exact (List.prefix_append_right_inj answered).2 begins'

/-- The answer with the first wrong byte is not good. -/
theorem FaultIn.not_good (fault : FaultIn hasCredentials bytes stage held)
    (refused : ¬ Accepted hasCredentials bytes) {good : Bytes}
    (isGood : Good hasCredentials stage good) : ¬ good <+: held := by
  obtain ⟨index, answered, faultAt, before, rfl, -, inHeader⟩ := fault
  rintro ⟨rest, rfl⟩
  by_cases early : stage ≠ .connecting
  · refine faultAt.wrong ((before.viable_append isGood).of_begins ?_)
    rw [← List.append_assoc, List.take_append_of_le_length]
    · exact List.take_prefix _ _
    · rw [List.length_append, isGood.length early]
      omega
  · obtain rfl := not_not.1 early
    obtain _ | _ | _ | isReply := isGood
    exact refused ⟨_, transcript_iff.2 ⟨answered, _, before, isReply, rfl⟩, rest, by simp⟩

namespace Handshake

variable {h : Handshake} {message : Bytes}

/-! ### What good answers lead to -/

theorem emitConnect_awaiting (request : connectRequest? h.target = some message) (stage : Stage) :
    (h.awaiting stage).emitConnect [] = (.emit message, h.awaiting .connecting) := by
  simp only [emitConnect, awaiting, request]
  rfl

theorem verdict_pour_plain (request : connectRequest? h.target = some message) (rest : Bytes) :
    ((h.awaiting .greeting).pour ([version, methodNone] ++ rest)).verdict =
      ((h.awaiting .connecting).pour rest).verdict.afterMessage message :=
  verdict_pour_append_of_emit rest (emitConnect_awaiting request .greeting)

theorem verdict_pour_password {credentials : Credentials} (has : h.credentials = some credentials)
    (rest : Bytes) :
    ((h.awaiting .greeting).pour ([version, methodPassword] ++ rest)).verdict =
      ((h.awaiting .authenticating).pour rest).verdict.afterMessage
        (authenticationRequest credentials) := by
  have fed : (h.awaiting .greeting).feed [version, methodPassword] =
      (.emit (authenticationRequest credentials), h.awaiting .authenticating) := by
    have scan : scanMethod ([] ++ [version, methodPassword]) = .complete .password [] := rfl
    simp only [feed, awaiting, receive, receiveMethod, scan, has]
    rfl
  exact verdict_pour_append_of_emit rest fed

theorem verdict_pour_accepted (request : connectRequest? h.target = some message) (rest : Bytes) :
    ((h.awaiting .authenticating).pour ([Socks5.authenticationVersion, 0] ++ rest)).verdict =
      ((h.awaiting .connecting).pour rest).verdict.afterMessage message :=
  verdict_pour_append_of_emit rest (emitConnect_awaiting request .authenticating)

theorem verdict_pour_reply {reply : Bytes} (isReply : Reply reply) (rest : Bytes) :
    ((h.awaiting .connecting).pour (reply ++ rest)).verdict =
      ⟨[], .done rest, { h with phase := .established }⟩ := by
  obtain ⟨kind, bound, isBound, rfl⟩ := reply_iff.1 isReply
  have scan : scanConnect h.target ([version, 0, 0, kind] ++ bound ++ rest) = .complete () rest :=
    scanBound_append_of_bound rest isBound
  refine verdict_pour_of_not_emit ?_ rfl
  simp only [feed, awaiting, receive, receiveReply, List.nil_append, scan]

/-- What comes behind good answers is for the handshake that waits in the stage they lead to. -/
theorem pour_of_before (request : connectRequest? h.target = some message) {stage : Stage}
    {answered : Bytes} (before : Before h.credentials.isSome stage answered) (held : Bytes) :
    ((h.awaiting .greeting).pour (answered ++ held)).outcome =
        ((h.awaiting stage).pour held).outcome ∧
      ((h.awaiting .greeting).pour (answered ++ held)).handshake =
        ((h.awaiting stage).pour held).handshake := by
  cases before with
  | greeting => exact ⟨rfl, rfl⟩
  | authenticating has =>
    obtain ⟨credentials, has⟩ := Option.isSome_iff_exists.1 has
    have poured := verdict_pour_password has held
    exact ⟨congrArg Verdict.outcome poured, congrArg Verdict.handshake poured⟩
  | plain =>
    have poured := verdict_pour_plain request held
    exact ⟨congrArg Verdict.outcome poured, congrArg Verdict.handshake poured⟩
  | password has =>
    obtain ⟨credentials, has⟩ := Option.isSome_iff_exists.1 has
    have first := verdict_pour_password has ([Socks5.authenticationVersion, 0] ++ held)
    have second := verdict_pour_accepted request held
    exact ⟨(congrArg Verdict.outcome first).trans (congrArg Verdict.outcome second),
      (congrArg Verdict.handshake first).trans (congrArg Verdict.handshake second)⟩

/-- A transcript establishes the tunnel, and the bytes behind it are left over. -/
theorem pour_of_transcript (request : connectRequest? h.target = some message) {transcript : Bytes}
    (isTranscript : Transcript h.credentials.isSome transcript) (rest : Bytes) :
    ((h.awaiting .greeting).pour (transcript ++ rest)).outcome = .done rest ∧
      ((h.awaiting .greeting).pour (transcript ++ rest)).handshake.phase = .established := by
  obtain ⟨answered, reply, before, isReply, rfl⟩ := transcript_iff.1 isTranscript
  obtain ⟨outcome, handshake⟩ := pour_of_before request before (reply ++ rest)
  have poured := verdict_pour_reply (h := h) isReply rest
  rw [List.append_assoc, outcome, handshake]
  exact ⟨congrArg Verdict.outcome poured, congrArg (·.handshake.phase) poured⟩

/-- No transcript is the beginning of a longer one: else its rest would be left over. -/
theorem eq_of_transcript_prefix (request : connectRequest? h.target = some message)
    {shorter longer : Bytes} (isShorter : Transcript h.credentials.isSome shorter)
    (isLonger : Transcript h.credentials.isSome longer) (begins : shorter <+: longer) :
    shorter = longer := by
  obtain ⟨rest, rfl⟩ := begins
  have nothing := (pour_of_transcript request isLonger []).1
  rw [List.append_nil, (pour_of_transcript request isShorter rest).1] at nothing
  rw [Outcome.done.inj nothing, List.append_nil]

/-- Where the bytes lack a good answer, the handshake waits or fails. -/
theorem pour_of_not_good (request : connectRequest? h.target = some message)
    (before : Before h.credentials.isSome stage answered)
    (other : ∀ good, Good h.credentials.isSome stage good → ¬ good <+: held) :
    (((h.awaiting .greeting).pour (answered ++ held)).outcome = .needMore ∧
        ((h.awaiting .greeting).pour (answered ++ held)).handshake.phase = .waiting stage held ∧
        (held.length < stage.headerLength ∨
          ∃ good, Good h.credentials.isSome stage good ∧ held <+: good)) ∨
      (∃ error, ((h.awaiting .greeting).pour (answered ++ held)).outcome = .failed error ∧
        ((h.awaiting .greeting).pour (answered ++ held)).handshake.phase = .failed error) ∧
        stage.headerLength ≤ held.length ∧
        ∀ good, Good h.credentials.isSome stage good → ¬ held <+: good := by
  obtain ⟨outcome, handshake⟩ := pour_of_before request before held
  rw [outcome, handshake]
  rcases (h.awaiting stage).receive_of_not_good other with ⟨waits, open_⟩ | ⟨⟨error, fails⟩, closed⟩
  · have fed : (h.awaiting stage).feed held = (h.awaiting stage).needMore stage held := waits
    rw [pour_of_not_emit fed rfl]
    exact Or.inl ⟨rfl, rfl, open_⟩
  · have fed : (h.awaiting stage).feed held = (h.awaiting stage).fail error := fails
    rw [pour_of_not_emit fed rfl]
    exact Or.inr ⟨⟨error, rfl, rfl⟩, closed⟩

/-- Without a transcript the handshake waits or fails. -/
theorem waits_or_fails_of_refused (request : connectRequest? h.target = some message)
    (refused : ¬ Accepted h.credentials.isSome bytes) :
    (((h.awaiting .greeting).pour bytes).outcome = .needMore ∧
        ∃ stage held, ((h.awaiting .greeting).pour bytes).handshake.phase = .waiting stage held) ∨
      ∃ error, ((h.awaiting .greeting).pour bytes).outcome = .failed error ∧
        ((h.awaiting .greeting).pour bytes).handshake.phase = .failed error := by
  have start : Before h.credentials.isSome .greeting [] := .greeting
  rcases accepted_or_before start bytes with accepted | ⟨stage, answered, held, before, eq, other⟩
  · exact absurd accepted refused
  · rw [List.nil_append] at eq
    rw [eq]
    rcases pour_of_not_good request before other with ⟨outcome, waits, -⟩ | ⟨failed, -⟩
    · exact Or.inl ⟨outcome, stage, held, waits⟩
    · exact Or.inr failed

/-- Only a transcript establishes the tunnel. -/
theorem accepted_of_established (request : connectRequest? h.target = some message)
    (established : ((h.awaiting .greeting).pour bytes).handshake.phase = .established) :
    Accepted h.credentials.isSome bytes := by
  by_contra refused
  rcases waits_or_fails_of_refused request refused with ⟨-, _, _, waits⟩ | ⟨error, -, fails⟩
  · exact Phase.noConfusion (established.symm.trans waits)
  · exact Phase.noConfusion (established.symm.trans fails)

/-- Only a transcript leads to bytes that are left over. -/
theorem accepted_of_done {leftover : Bytes} (request : connectRequest? h.target = some message)
    (done : ((h.awaiting .greeting).pour bytes).outcome = .done leftover) :
    Accepted h.credentials.isSome bytes := by
  by_contra refused
  rcases waits_or_fails_of_refused request refused with ⟨waits, -⟩ | ⟨error, fails, -⟩
  · exact Outcome.noConfusion (done.symm.trans waits)
  · exact Outcome.noConfusion (done.symm.trans fails)

/-- A proper beginning of a transcript makes the handshake wait for a good answer, of which it
holds back all that is there. -/
theorem pour_of_proper_beginning (request : connectRequest? h.target = some message)
    {transcript : Bytes} (isTranscript : Transcript h.credentials.isSome transcript)
    (begins : bytes <+: transcript) (proper : bytes ≠ transcript) :
    ((h.awaiting .greeting).pour bytes).outcome = .needMore ∧
      ∃ stage answered held good, Before h.credentials.isSome stage answered ∧
        bytes = answered ++ held ∧
        Good h.credentials.isSome stage good ∧ held <+: good ∧ held ≠ good ∧
        ((h.awaiting .greeting).pour bytes).handshake.phase = .waiting stage held := by
  have start : Before h.credentials.isSome .greeting [] := .greeting
  rcases accepted_or_before start bytes with accepted |
    ⟨stage, answered, held, before, rfl, other⟩
  · obtain ⟨shorter, isShorter, shorterBegins⟩ := accepted
    obtain rfl := eq_of_transcript_prefix request isShorter isTranscript
      (shorterBegins.trans begins)
    exact absurd (begins.eq_of_length
      (Nat.le_antisymm begins.length_le shorterBegins.length_le)) proper
  · have viable : Viable h.credentials.isSome (answered ++ held) :=
      ⟨transcript, isTranscript, begins⟩
    obtain ⟨good, isGood, part⟩ : ∃ good, Good h.credentials.isSome stage good ∧ held <+: good := by
      rcases good_of_viable before viable with ⟨good, isGood, whole⟩ | part
      · exact absurd whole (other good isGood)
      · exact part
    rcases pour_of_not_good request before other with ⟨outcome, waits, -⟩ | ⟨-, -, closed⟩
    · refine ⟨outcome, stage, answered, held, good, before, rfl, isGood, part, ?_, waits⟩
      rintro rfl
      exact other held isGood List.prefix_rfl
    · exact absurd part (closed good isGood)

/-- A wrong byte in the header of an answer makes the handshake fail when the header is there,
and until then it waits. -/
theorem pour_of_faultIn (request : connectRequest? h.target = some message)
    (refused : ¬ Accepted h.credentials.isSome bytes) (wrong : ¬ Viable h.credentials.isSome bytes)
    (fault : FaultIn h.credentials.isSome bytes stage held) :
    ((∃ error, ((h.awaiting .greeting).pour bytes).outcome = .failed error ∧
        ((h.awaiting .greeting).pour bytes).handshake.phase = .failed error) ↔
      stage.headerLength ≤ held.length) ∧
    (held.length < stage.headerLength →
      ((h.awaiting .greeting).pour bytes).outcome = .needMore ∧
      ((h.awaiting .greeting).pour bytes).handshake.phase = .waiting stage held) := by
  have other (good : Bytes) (isGood : Good h.credentials.isSome stage good) : ¬ good <+: held :=
    fault.not_good refused isGood
  obtain ⟨index, answered, -, before, rfl, -⟩ := fault
  rcases pour_of_not_good request before other with ⟨outcome, waits, open_⟩ | ⟨failed, enough, -⟩
  · have few : held.length < stage.headerLength := by
      rcases open_ with few | ⟨good, isGood, part⟩
      · exact few
      · exact absurd ((before.viable_append isGood).of_begins
          ((List.prefix_append_right_inj answered).2 part)) wrong
    refine ⟨⟨?_, fun enough => absurd enough (Nat.not_le_of_lt few)⟩, fun _ => ⟨outcome, waits⟩⟩
    rintro ⟨error, fails, -⟩
    exact absurd (outcome.symm.trans fails) Outcome.noConfusion
  · exact ⟨⟨fun _ => enough, fun _ => failed⟩, fun few => absurd enough (Nat.not_le_of_lt few)⟩

/-- A handshake that has a greeting to send then waits for the answer. -/
theorem awaiting_of_start {greeting : Bytes} {started : Handshake} (idle : h.phase = .idle)
    (emitted : h.start = (.emit greeting, started)) :
    ∃ message, connectRequest? h.target = some message ∧ started = h.awaiting .greeting := by
  rcases start_cases idle with ⟨message, request, -, eq⟩ | ⟨error, eq⟩
  · rw [eq] at emitted
    cases emitted
    exact ⟨message, request, rfl⟩
  · rw [eq] at emitted
    cases emitted

/-! ### Main statements -/

/-- **A handshake accepts exactly the transcripts.** Bytes are poured into a started handshake.
The tunnel is established if and only if they begin with a transcript, and then the bytes
behind it are left over. If they are a proper beginning of a transcript, the handshake waits,
and holds back all that is there of the answer `good` that it waits for. If they are
neither, there is a first wrong byte in the header of an answer, and the handshake has failed
if and only if the whole header is there. -/
theorem pour_accepts_transcripts (target : HostPort) (credentials : Option Credentials)
    {greeting : Bytes} {started : Handshake}
    (emitted : start { target, credentials } = (.emit greeting, started)) (bytes : Bytes) :
    ((started.pour bytes).handshake.phase = .established ↔
      ∃ transcript, Transcript credentials.isSome transcript ∧ transcript <+: bytes) ∧
    (∀ transcript rest, Transcript credentials.isSome transcript → bytes = transcript ++ rest →
      (started.pour bytes).outcome = .done rest) ∧
    (∀ transcript, Transcript credentials.isSome transcript → bytes <+: transcript →
      bytes ≠ transcript →
      (started.pour bytes).outcome = .needMore ∧
      ∃ stage answered held good, Before credentials.isSome stage answered ∧
        bytes = answered ++ held ∧
        Good credentials.isSome stage good ∧ held <+: good ∧ held ≠ good ∧
        (started.pour bytes).handshake.phase = .waiting stage held) ∧
    (¬ Accepted credentials.isSome bytes → ¬ Viable credentials.isSome bytes →
      (∃ stage held, FaultIn credentials.isSome bytes stage held) ∧
      ∀ stage held, FaultIn credentials.isSome bytes stage held →
        ((∃ error, (started.pour bytes).outcome = .failed error ∧
            (started.pour bytes).handshake.phase = .failed error) ↔
          stage.headerLength ≤ held.length) ∧
        (held.length < stage.headerLength →
          (started.pour bytes).outcome = .needMore ∧
          (started.pour bytes).handshake.phase = .waiting stage held)) := by
  obtain ⟨message, request, rfl⟩ := awaiting_of_start rfl emitted
  refine ⟨⟨accepted_of_established request, ?_⟩, ?_, ?_, ?_⟩
  · rintro ⟨transcript, isTranscript, rest, rfl⟩
    exact (pour_of_transcript request isTranscript rest).2
  · rintro transcript rest isTranscript rfl
    exact (pour_of_transcript request isTranscript rest).1
  · intro transcript isTranscript begins proper
    exact pour_of_proper_beginning request isTranscript begins proper
  · intro refused wrong
    exact ⟨exists_faultIn refused wrong, fun stage held fault =>
      pour_of_faultIn request refused wrong fault⟩

/-- A server that wants no user and password, and connects. -/
theorem pour_accepts_plain_transcript :
    start { target := ⟨ascii "10.0.0.1", 443⟩, credentials := none } =
        (.emit [5, 1, 0],
          awaiting { target := ⟨ascii "10.0.0.1", 443⟩, credentials := none } .greeting) ∧
      (pour (awaiting { target := ⟨ascii "10.0.0.1", 443⟩, credentials := none } .greeting)
        [5, 0, 5, 0, 0, 3, 1, 0x61, 0, 80, 0x16]).outcome = .done [0x16] := by
  have emitted : start { target := ⟨ascii "10.0.0.1", 443⟩, credentials := none } =
      (.emit [5, 1, 0], awaiting { target := ⟨ascii "10.0.0.1", 443⟩, credentials := none }
        .greeting) := by decide
  have reply : Reply [5, 0, 0, 3, 1, 0x61, 0, 80] :=
    @Reply.mk typeDomain [1, 0x61] [0, 80] (.domain rfl) rfl
  exact ⟨emitted, (pour_accepts_transcripts _ _ emitted _).2.1 _ [0x16] (.plain reply) rfl⟩

/-- **It does not matter how a server's bytes arrive.** Two handshakes that are made and started
alike are fed the same bytes, cut into chunks in two ways and drained after any of them,
and drained at the end. They come to the same state, with the same error and the same bytes
held back, and have the same messages to send. If they are established, the bytes left over
and those fed after that are the same, and they are all that follows the transcript. -/
theorem deliver_eq_of_same_bytes (target : HostPort) (credentials : Option Credentials)
    {one other : List Delivery} (same : deliveredBytes one = deliveredBytes other) :
    (deliver (start { target, credentials }) one).handshake =
        (deliver (start { target, credentials }) other).handshake ∧
      (deliver (start { target, credentials }) one).messages =
        (deliver (start { target, credentials }) other).messages ∧
      (deliver (start { target, credentials }) one).outcome.message? = none ∧
      (deliver (start { target, credentials }) other).outcome.message? = none ∧
      ((deliver (start { target, credentials }) one).handshake.phase = .established →
        tunnelled (deliver (start { target, credentials }) one).exchanges =
          tunnelled (deliver (start { target, credentials }) other).exchanges ∧
        ∃ transcript, Transcript credentials.isSome transcript ∧
          deliveredBytes one =
            transcript ++ tunnelled (deliver (start { target, credentials }) one).exchanges) := by
  have settled : Settled (start { target, credentials }) := settled_start rfl
  obtain ⟨messages, handshake, tunnel⟩ := deliver_agrees settled one
  obtain ⟨messages', handshake', tunnel'⟩ := deliver_agrees settled other
  rw [← same] at messages' handshake' tunnel'
  refine ⟨handshake.trans handshake'.symm, messages.trans messages'.symm, message?_deliver _ _,
    message?_deliver _ _, fun established => ⟨tunnel.trans tunnel'.symm, ?_⟩⟩
  rw [handshake] at established
  rw [tunnel]
  rcases start_cases (h := { target, credentials }) rfl with ⟨message, request, -, eq⟩ | ⟨_, eq⟩
  · rw [eq] at established ⊢
    obtain ⟨transcript, isTranscript, rest, bytes⟩ := accepted_of_established request established
    refine ⟨transcript, isTranscript, ?_⟩
    have outcome := (pour_of_transcript request isTranscript rest).1
    rw [bytes] at outcome
    simp only [Dialogue.verdict, outcome, Outcome.leftover, bytes]
  · -- A start that failed has failed for good.
    have isOver : (start { target, credentials }).2.Over := by
      rw [eq]
      exact Or.inr ⟨_, rfl⟩
    obtain ⟨error, poured⟩ := verdict_pour_of_over isOver
    rw [poured, eq] at established
    exact absurd established Phase.noConfusion

/-- Replies that come in pieces, and the same replies all at once and undrained. -/
theorem deliver_eq_of_two_cuts :
    deliveredBytes [⟨[5], true⟩, ⟨[2, 1], true⟩, ⟨[], false⟩, ⟨[0, 5, 1], false⟩, ⟨[0, 1], true⟩] =
        deliveredBytes [⟨[5, 2, 1, 0, 5, 1, 0, 1], false⟩] ∧
      (deliver (start { target := ⟨ascii "10.0.0.1", 443⟩, credentials := some ⟨[0x75], [0x70]⟩ })
          [⟨[5], true⟩, ⟨[2, 1], true⟩, ⟨[], false⟩, ⟨[0, 5, 1], false⟩, ⟨[0, 1], true⟩]).handshake =
        (deliver (start { target := ⟨ascii "10.0.0.1", 443⟩, credentials := some ⟨[0x75], [0x70]⟩ })
          [⟨[5, 2, 1, 0, 5, 1, 0, 1], false⟩]).handshake := by
  have same :
      deliveredBytes
          [⟨[5], true⟩, ⟨[2, 1], true⟩, ⟨[], false⟩, ⟨[0, 5, 1], false⟩, ⟨[0, 1], true⟩] =
        deliveredBytes [⟨[5, 2, 1, 0, 5, 1, 0, 1], false⟩] := rfl
  exact ⟨same, (deliver_eq_of_same_bytes ⟨ascii "10.0.0.1", 443⟩ (some ⟨[0x75], [0x70]⟩) same).1⟩

end Handshake

end ProxyRouting.Socks5
