import ProxyRouting.Proofs.Socks5.Messages

/-!
# How much a handshake holds back

A handshake that waits for more bytes holds the beginning of an answer and has taken nothing off. An
answer has so many bytes at most (`Stage.longest`), so a server cannot make a handshake hold back
more by sending on and on: with the next bytes the answer is complete, and it is taken off at once.

What is left behind an answer is then shorter than the bytes that completed it
(`left_le_of_waited`).
-/

namespace ProxyRouting.Socks5

/-! ### The length of an answer -/

/-- How many bytes an answer has at most: a CONNECT reply has a header, a domain name with its
length byte, and a port. -/
def Stage.longest : Stage → Nat
  | .greeting => 2
  | .authenticating => 2
  | .connecting => 4 + (1 + 255 + 2)

theorem Stage.longest_le (stage : Stage) : stage.longest ≤ 262 := by
  cases stage <;> decide

theorem Bound.length_le {kind : UInt8} {bytes : Bytes} (bound : Bound kind bytes) :
    bytes.length ≤ 1 + 255 + 2 := by
  rcases bound.kind with rfl | rfl | rfl
  · rw [bound_ipv4_iff.1 bound]
    decide
  · rw [bound_ipv6_iff.1 bound]
    decide
  · obtain ⟨length, name, rfl, fits⟩ := bound_domain_iff.1 bound
    have := length.toNat_lt
    rw [List.length_cons, fits]
    omega

theorem Whole.length_le {stage : Stage} {answer : Bytes} (whole : Whole stage answer) :
    answer.length ≤ stage.longest := by
  cases whole with
  | method v method => exact Nat.le_refl _
  | verdict v status => exact Nat.le_refl _
  | reply v code reserved bound =>
    rw [List.length_append]
    exact Nat.add_le_add_left bound.length_le 4

/-! ### Answers taken off -/

/-- The answers that lead to the next stage are complete. -/
theorem Moves.whole {credentials : Option Credentials} {target : HostPort} {stage next : Stage}
    {answer message : Bytes} (moves : Moves credentials target stage answer message next) :
    Whole stage answer := by
  cases moves with
  | plain _ => exact .method _ _
  | password _ => exact .method _ _
  | accepted _ => exact .verdict _ _

theorem exists_bound_of_scanBound {kind : UInt8} {bytes rest : Bytes}
    (scan : scanBound kind bytes = .complete () rest) :
    ∃ bound, Bound kind bound ∧ bytes = bound ++ rest := by
  by_cases begins : ∃ bound, Bound kind bound ∧ bound <+: bytes
  · obtain ⟨bound, isBound, behind, rfl⟩ := begins
    rw [scanBound_append_of_bound behind isBound] at scan
    cases scan
    exact ⟨bound, isBound, rfl⟩
  · rcases scanBound_of_not_bound fun bound isBound front => begins ⟨bound, isBound, front⟩ with
      ⟨incomplete, -⟩ | ⟨⟨error, invalid⟩, -⟩
    · cases incomplete.symm.trans scan
    · cases invalid.symm.trans scan

theorem exists_whole_of_scanConnect {target : HostPort} {bytes rest : Bytes}
    (scan : scanConnect target bytes = .complete () rest) :
    ∃ answer, Whole .connecting answer ∧ bytes = answer ++ rest := by
  match bytes with
  | [] | [_] | [_, _] | [_, _, _] => cases scan
  | v :: code :: reserved :: kind :: behind =>
    rcases scanConnect_cases target v code reserved kind behind with ⟨-, eq⟩ | ⟨-, error, eq⟩
    · obtain ⟨bound, isBound, rfl⟩ := exists_bound_of_scanBound (eq.symm.trans scan)
      exact ⟨_, .reply v code reserved isBound, rfl⟩
    · cases eq.symm.trans scan

namespace Handshake

variable {h : Handshake} {stage : Stage} {held bytes : Bytes}

/-- The tunnel is open behind a complete CONNECT reply. -/
theorem exists_whole_of_done {rest : Bytes} {next : Handshake}
    (opens : h.receive .connecting bytes = (.done rest, next)) :
    ∃ answer, Whole .connecting answer ∧ bytes = answer ++ rest := by
  simp only [receive, receiveReply] at opens
  split at opens
  · cases opens
  · cases opens
  · next scan =>
    cases opens
    exact exists_whole_of_scanConnect scan

/-- **What becomes of the bytes of an answer**: they are all held back, or given up with a failure,
or one complete answer is taken off. -/
theorem receive_takes (h : Handshake) (stage : Stage) (bytes : Bytes) :
    h.receive stage bytes = h.needMore stage bytes ∨
      (∃ error, h.receive stage bytes = h.fail error) ∨
      ∃ answer rest, Whole stage answer ∧ bytes = answer ++ rest ∧
        ((∃ message next, h.receive stage bytes = h.emit message next rest) ∨
          h.receive stage bytes = (.done rest, { h with phase := .established })) := by
  rcases h.receive_moves stage bytes with waits | fails |
    ⟨answer, message, next, rest, moves, split, eq⟩ | ⟨rfl, rest, opens⟩
  · exact Or.inl waits
  · exact Or.inr (Or.inl fails)
  · exact Or.inr (Or.inr ⟨answer, rest, moves.whole, split, Or.inl ⟨message, next, eq⟩⟩)
  · obtain ⟨answer, whole, split⟩ := exists_whole_of_done opens
    exact Or.inr (Or.inr ⟨answer, rest, whole, split, Or.inr opens⟩)

/-! ### Bytes held back -/

/-- **A handshake that waits holds the beginning of an answer.** -/
theorem exists_whole_of_needMore (waits : (h.receive stage held).1 = .needMore) :
    ∃ more, Whole stage (held ++ more) := by
  have incomplete {answer : Bytes} (whole : Whole stage answer) : ¬ answer <+: held :=
    not_whole_of_needMore waits whole
  cases stage with
  | greeting =>
    match held with
    | [] => exact ⟨[0, 0], .method 0 0⟩
    | [v] => exact ⟨[0], .method v 0⟩
    | v :: method :: rest => exact absurd ⟨rest, rfl⟩ (incomplete (.method v method))
  | authenticating =>
    match held with
    | [] => exact ⟨[0, 0], .verdict 0 0⟩
    | [v] => exact ⟨[0], .verdict v 0⟩
    | v :: status :: rest => exact absurd ⟨rest, rfl⟩ (incomplete (.verdict v status))
  | connecting =>
    -- Any address will do for a header of which the type has not come in.
    have isBound : Bound typeIPv4 [0, 0, 0, 0, 0, 0] := bound_ipv4_iff.2 rfl
    match held with
    | [] => exact ⟨_, .reply 0 0 0 isBound⟩
    | [v] => exact ⟨_, .reply v 0 0 isBound⟩
    | [v, code] => exact ⟨_, .reply v code 0 isBound⟩
    | [v, code, reserved] => exact ⟨_, .reply v code reserved isBound⟩
    | v :: code :: reserved :: kind :: rest =>
      have other (bound : Bytes) (isBound : Bound kind bound) : ¬ bound <+: rest := fun begins =>
        incomplete (.reply v code reserved isBound)
          ((List.prefix_append_right_inj [v, code, reserved, kind]).2 begins)
      rcases scanBound_of_not_bound other with ⟨-, more, isBound⟩ | ⟨⟨error, invalid⟩, -⟩
      · exact ⟨more, .reply v code reserved isBound⟩
      · rcases scanConnect_cases h.target v code reserved kind rest with ⟨-, eq⟩ | ⟨-, _, eq⟩
        · simp only [receive, receiveReply, eq, invalid] at waits
          cases waits
        · simp only [receive, receiveReply, eq] at waits
          cases waits

/-- **A handshake that waits holds less than the longest answer.** -/
theorem length_lt_of_needMore (waits : (h.receive stage held).1 = .needMore) :
    held.length < stage.longest := by
  obtain ⟨more, whole⟩ := exists_whole_of_needMore waits
  have longer : more ≠ [] := by
    rintro rfl
    rw [List.append_nil] at whole
    exact not_whole_of_needMore waits whole List.prefix_rfl
  have := List.length_pos_iff.2 longer
  have := whole.length_le
  rw [List.length_append] at this
  omega

/-- Behind the answer that some bytes complete is left less than these. -/
theorem length_lt_of_whole (waited : (h.receive stage held).1 = .needMore) {answer rest : Bytes}
    (whole : Whole stage answer) (split : held ++ bytes = answer ++ rest) :
    rest.length < bytes.length := by
  by_contra few
  have shorter : answer.length ≤ held.length := by
    have := congrArg List.length split
    rw [List.length_append, List.length_append] at this
    omega
  have begins : answer <+: held ++ bytes := ⟨rest, split.symm⟩
  exact not_whole_of_needMore waited whole
    (List.prefix_of_prefix_length_le begins (List.prefix_append held bytes) shorter)

/-- How much is left behind an answer that was taken off: what is held back with the next message,
or left over when the tunnel is open. -/
def left : Outcome × Handshake → Nat
  | (.emit _, h) => h.buffered
  | (.done leftover, _) => leftover.length
  | _ => 0

/-- What is left are the bytes behind a complete answer, or none. -/
theorem left_receive (h : Handshake) (stage : Stage) (bytes : Bytes) :
    left (h.receive stage bytes) = 0 ∨
      ∃ answer rest, Whole stage answer ∧ bytes = answer ++ rest ∧
        left (h.receive stage bytes) = rest.length := by
  rcases h.receive_takes stage bytes with waits | ⟨error, fails⟩ |
    ⟨answer, rest, whole, split, ⟨message, next, emits⟩ | opens⟩
  · rw [waits]
    exact Or.inl rfl
  · rw [fails]
    exact Or.inl rfl
  · rw [emits]
    exact Or.inr ⟨answer, rest, whole, split, rfl⟩
  · rw [opens]
    exact Or.inr ⟨answer, rest, whole, split, rfl⟩

/-- A call leaves no more than was held back and fed. -/
theorem left_receive_le (h : Handshake) (stage : Stage) (bytes : Bytes) :
    left (h.receive stage bytes) ≤ bytes.length := by
  rcases h.left_receive stage bytes with nothing | ⟨answer, rest, -, split, eq⟩
  · rw [nothing]
    exact Nat.zero_le _
  · rw [eq, split, List.length_append]
    exact Nat.le_add_left _ _

/-- **A handshake that has waited leaves less than it is fed.** -/
theorem left_le_of_waited (waited : (h.receive stage held).1 = .needMore) (bytes : Bytes) :
    left (h.receive stage (held ++ bytes)) ≤ bytes.length - 1 := by
  rcases h.left_receive stage (held ++ bytes) with nothing | ⟨answer, rest, whole, split, eq⟩
  · rw [nothing]
    exact Nat.zero_le _
  · rw [eq]
    exact Nat.le_sub_one_of_lt (length_lt_of_whole waited whole split)

/-! ### Calls -/

theorem InNegotiation.buffered_extend (waits : h.InNegotiation) (bytes : Bytes) :
    (h.extend bytes).buffered = h.buffered + bytes.length := by
  obtain ⟨stage, held, phase⟩ := waits
  simp only [Handshake.extend, buffered, buffer, phase, List.length_append]

/-- **Waiting for more bytes** keeps the stage and all bytes, and they are fewer than the longest
answer. -/
theorem waits_of_needMore (call : Call) (waits : (h.answer call).1 = .needMore) :
    ∃ stage, h.phase = .waiting stage h.buffer ∧
      (h.answer call).2.phase = .waiting stage (h.buffer ++ call.bytes) ∧
      (h.buffer ++ call.bytes).length < stage.longest := by
  rcases stepped : h.answer call with ⟨outcome, after⟩
  have step := h.step_answer call
  rw [stepped] at step waits
  obtain rfl : outcome = .needMore := waits
  cases step with
  | @waits stage held bytes phase =>
    have isHeld : h.buffer = held := by simp only [buffer, phase]
    have received : (h.receive stage (held ++ bytes)).1 = .needMore := by
      simp only [answer, feed, phase] at stepped
      rw [stepped]
    rw [isHeld]
    exact ⟨stage, phase, rfl, length_lt_of_needMore received⟩

end Handshake

end ProxyRouting.Socks5
