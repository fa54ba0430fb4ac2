import ProxyRouting.Socks5.Error

/-!
# The texts of failures

Every cause of a failed negotiation has a text, and the first letters tell what kind of cause it is:
the negotiation itself, an answer that is not valid, or one that is not supported
(`Error.exists_front`). So no text is empty, and none is that of a failure in a state that is not
known.
-/

namespace ProxyRouting.Socks5

/-- A text begins with its first letters. -/
theorem isPrefix_ascii (front rest : List Char) :
    front.map Char.toUInt8 <+: ascii (String.ofList (front ++ rest)) :=
  ⟨rest.map Char.toUInt8, by simp [ascii]⟩

namespace Error

/-- What the texts begin with. -/
def fronts : List (List Char) := [['S', 'O', 'C'], ['I', 'n', 'v'], ['U', 'n', 's']]

theorem exists_front (error : Error) :
    ∃ front ∈ fronts, front.map Char.toUInt8 <+: error.message := by
  cases error with
  | alreadyStarted | notStarted | alreadyEstablished | credentialsTooLong | noAcceptableMethod
  | credentialsRequired =>
    exact ⟨_, .head _, isPrefix_ascii _ _⟩
  | unencodableHost _ | refused _ _ =>
    refine ⟨_, .head _, ?_⟩
    simp only [message, List.append_assoc]
    exact (isPrefix_ascii _ _).trans (List.prefix_append _ _)
  | authenticationFailed _ =>
    exact ⟨_, .head _, (isPrefix_ascii _ _).trans (List.prefix_append _ _)⟩
  | methodVersion _ | authenticationVersion _ | replyVersion _ | reservedByte _ =>
    exact ⟨_, .tail _ (.head _), (isPrefix_ascii _ _).trans (List.prefix_append _ _)⟩
  | unsupportedMethod _ | unsupportedAddressType _ =>
    exact ⟨_, .tail _ (.tail _ (.head _)), (isPrefix_ascii _ _).trans (List.prefix_append _ _)⟩

theorem message_ne_nil (error : Error) : error.message ≠ [] := by
  intro empty
  obtain ⟨front, mem, isFront⟩ := error.exists_front
  have nonempty : ∀ front ∈ fronts, front.map Char.toUInt8 ≠ [] := by decide
  rw [empty, List.prefix_nil] at isFront
  exact nonempty front mem isFront

/-- No failure is due to a state that is not known. -/
theorem not_unknownState (error : Error) : ¬ ascii "Unknown SOCKS5 state" <+: error.message := by
  intro begins
  obtain ⟨front, mem, isFront⟩ := error.exists_front
  have unknown : ['U', 'n', 'k'].map Char.toUInt8 <+: error.message :=
    (isPrefix_ascii _ _).trans begins
  have other : ∀ front ∈ fronts,
      front.length ≤ 3 ∧ ¬ front.map Char.toUInt8 <+: ['U', 'n', 'k'].map Char.toUInt8 := by decide
  obtain ⟨short, differs⟩ := other front mem
  exact differs (List.prefix_of_prefix_length_le isFront unknown (by simpa using short))

end Error

end ProxyRouting.Socks5
