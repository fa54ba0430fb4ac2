import ProxyRouting.Proofs.Text.Cutting
import ProxyRouting.Rule

/-!
# Wildcard patterns

Each literal part is taken at its first place after the part before it, and nothing is lost by
that: what a part leaves behind its first place ends with what it leaves behind any other place,
and parts that are found in the end of a text are found in the text (`occurInOrder_iff`).

A rule of a pattern can also be read as a search for a regular expression. `expression` is the
one of a pattern: an asterisk becomes `.*`, and a byte on the list of those to escape stands behind
a backslash. What an expression matches does not depend on that list: in it `metacharacters` have
meanings of their own. `Begins` says what the other bytes, the escaped ones and `.*` match, and
`Finds` that a match begins somewhere in the text. The list has all metacharacters but the asterisk
(`mem_metacharacters_iff`), so the search finds the expression exactly where the parts decompose the
text (`finds_expression_iff`).

`Rule.hostPattern_accepts_iff` puts both together for the flows that a pattern's rule accepts.
-/

namespace ProxyRouting

namespace Wildcard

variable {pattern part text : Bytes} {others : List Bytes}

/-! ### The first place of each part -/

theorem decomposes_cons_iff :
    Decomposes (part :: others) text ↔
      ∃ skipped rest, text = skipped ++ part ++ rest ∧ Decomposes others rest := by
  constructor
  · intro made
    cases made with
    | part skipped made => exact ⟨skipped, _, rfl, made⟩
  · rintro ⟨skipped, rest, rfl, made⟩
    exact .part skipped made

/-- The first part begins some end of the text, and the other parts make up what is behind it. -/
theorem decomposes_cons_iff_exists_end :
    Decomposes (part :: others) text ↔
      ∃ skipped tail, text = skipped ++ tail ∧ ∃ rest, tail = part ++ rest ∧
        Decomposes others rest := by
  rw [decomposes_cons_iff]
  constructor
  · rintro ⟨skipped, rest, rfl, made⟩
    exact ⟨skipped, part ++ rest, List.append_assoc .., rest, rfl, made⟩
  · rintro ⟨skipped, tail, rfl, rest, rfl, made⟩
    exact ⟨skipped, rest, (List.append_assoc ..).symm, made⟩

/-- Parts that make up the end of a text make up the text. -/
theorem Decomposes.prepend {parts : List Bytes} (extra : Bytes) (made : Decomposes parts text) :
    Decomposes parts (extra ++ text) := by
  cases made with
  | rest => exact .rest _
  | part skipped made =>
    rw [← List.append_assoc, ← List.append_assoc]
    exact .part (extra ++ skipped) made

/-- To take each part at its first place finds the parts wherever they are. -/
theorem occurInOrder_iff {parts : List Bytes} :
    occurInOrder parts text = true ↔ Decomposes parts text := by
  induction parts generalizing text with
  | nil => exact ⟨fun _ => .rest text, fun _ => rfl⟩
  | cons part others ih =>
    rw [occurInOrder, decomposes_cons_iff]
    cases cut : cutText? part text with
    | none =>
      have nowhere := cutText?_eq_none_iff.1 cut
      simp only [Bool.false_eq_true, false_iff]
      rintro ⟨skipped, rest, eq, -⟩
      exact nowhere skipped rest eq
    | some sides =>
      obtain ⟨before, after⟩ := sides
      obtain ⟨eq, first⟩ := cutText?_eq_some_iff.1 cut
      constructor
      · intro found
        exact ⟨before, after, eq, ih.1 found⟩
      · rintro ⟨skipped, rest, other, made⟩
        -- The place in `other` may be a later one; its rest is the end of the rest that is kept.
        have short := first skipped rest other
        have lengths := congrArg List.length (eq.symm.trans other)
        simp only [List.length_append] at lengths
        have ends : rest <:+ text := ⟨skipped ++ part, other.symm⟩
        have keptEnds : after <:+ text := ⟨before ++ part, eq.symm⟩
        obtain ⟨extra, rfl⟩ := List.suffix_of_suffix_length_le ends keptEnds (by omega)
        exact ih.2 (made.prepend extra)

/-! ### The bytes between the parts -/

/-- The parts make up a text when it is one run of bytes before each of them, and one more. -/
theorem decomposes_iff_exists_gaps {parts : List Bytes} :
    Decomposes parts text ↔ ∃ gaps last, gaps.length = parts.length ∧
      text = (List.zipWith (· ++ ·) gaps parts).flatten ++ last := by
  induction parts generalizing text with
  | nil =>
    constructor
    · intro _
      exact ⟨[], text, rfl, rfl⟩
    · intro _
      exact .rest text
  | cons part others ih =>
    rw [decomposes_cons_iff]
    constructor
    · rintro ⟨skipped, rest, rfl, made⟩
      obtain ⟨gaps, last, length, rfl⟩ := ih.1 made
      refine ⟨skipped :: gaps, last, congrArg (· + 1) length, ?_⟩
      simp only [List.zipWith_cons_cons, List.flatten_cons, List.append_assoc]
    · rintro ⟨_ | ⟨skipped, gaps⟩, last, length, rfl⟩
      · exact absurd length (Nat.succ_ne_zero _).symm
      · refine ⟨skipped, _, ?_, ih.2 ⟨gaps, last, Nat.succ.inj length, rfl⟩⟩
        simp only [List.zipWith_cons_cons, List.flatten_cons, List.append_assoc]

/-! ### The parts of a pattern -/

theorem parts_nil : parts [] = [[]] := rfl

theorem parts_asterisk_cons : parts (asterisk :: pattern) = [] :: parts pattern := by
  rw [parts, List.splitOn, List.splitOnP_cons_eq_if_modifyHead, if_pos (beq_self_eq_true asterisk)]
  rfl

theorem parts_cons {b : UInt8} (literal : b ≠ asterisk) :
    parts (b :: pattern) = (parts pattern).modifyHead (b :: ·) := by
  have differs : ¬ (b == asterisk) = true := mt beq_iff_eq.1 literal
  rw [parts, List.splitOn, List.splitOnP_cons_eq_if_modifyHead, if_neg differs]
  rfl

theorem exists_parts_eq_cons (pattern : Bytes) : ∃ first others, parts pattern = first :: others :=
  List.exists_cons_of_ne_nil (List.splitOn_ne_nil asterisk pattern)

theorem intercalate_parts (pattern : Bytes) : [asterisk].intercalate (parts pattern) = pattern :=
  List.intercalate_splitOn asterisk

theorem asterisk_not_mem_of_mem_parts (among : part ∈ parts pattern) : asterisk ∉ part := by
  induction pattern generalizing part with
  | nil =>
    rw [parts_nil, List.mem_singleton] at among
    exact among ▸ List.not_mem_nil
  | cons b pattern ih =>
    by_cases literal : b = asterisk
    · rw [literal, parts_asterisk_cons, List.mem_cons] at among
      obtain rfl | among := among
      · exact List.not_mem_nil
      · exact ih among
    · obtain ⟨first, others, eq⟩ := exists_parts_eq_cons pattern
      rw [parts_cons literal, eq, List.modifyHead_cons, List.mem_cons] at among
      obtain rfl | among := among
      · rw [List.mem_cons, not_or]
        exact ⟨Ne.symm literal, ih (by rw [eq]; exact List.mem_cons_self)⟩
      · exact ih (by rw [eq]; exact List.mem_cons_of_mem first among)

/-! ### Regular expressions -/

/-- The byte that takes away the meaning of the one behind it. -/
def backslash : UInt8 := 0x5C

/-- The bytes that stand behind a backslash in the expression of a pattern. -/
def special : Bytes := ascii ".^$|()[]\x7b\x7d+?" ++ [backslash]

/-- The regular expression of a pattern. -/
def expression (pattern : Bytes) : Bytes :=
  pattern.flatMap fun b =>
    if b = asterisk then [fullStop, asterisk] else if b ∈ special then [backslash, b] else [b]

example : expression (ascii "*.(a)+") = ascii ".*\\.\\(a\\)\\+" := by decide

/-- The bytes with a meaning of their own in a regular expression: the two anchors, the escape, any
byte, three kinds of repetition, the alternative, and the brackets of groups, sets and counts. -/
def metacharacters : Bytes := ascii "^$" ++ [backslash] ++ ascii ".*+?|()[]\x7b\x7d"

/-- The text begins with a match of an expression that is made of literals, escaped bytes
and `.*`; the full stop stands for the bytes that satisfy `dot`. -/
inductive Begins (dot : UInt8 → Prop) : Bytes → Bytes → Prop
  /-- The empty expression matches no byte. -/
  | nil (text : Bytes) : Begins dot [] text
  /-- A byte without a meaning of its own matches itself. -/
  | literal {b : UInt8} {rest text : Bytes} : b ∉ metacharacters →
      Begins dot rest text → Begins dot (b :: rest) (b :: text)
  /-- A byte that has one matches itself behind a backslash. -/
  | escaped {b : UInt8} {rest text : Bytes} : b ∈ metacharacters →
      Begins dot rest text → Begins dot (backslash :: b :: rest) (b :: text)
  /-- Any run of the bytes that the full stop stands for. -/
  | run {run rest text : Bytes} : (∀ b ∈ run, dot b) →
      Begins dot rest text → Begins dot (fullStop :: asterisk :: rest) (run ++ text)

/-- A match of the expression begins somewhere in the text. -/
def Finds (dot : UInt8 → Prop) (regex text : Bytes) : Prop :=
  ∃ before rest, text = before ++ rest ∧ Begins dot regex rest

section Search

variable {dot : UInt8 → Prop} {regex : Bytes} {b : UInt8}

/-- **Every metacharacter is escaped** but the asterisk, and nothing else is. -/
theorem mem_metacharacters_iff (literal : b ≠ asterisk) : b ∈ metacharacters ↔ b ∈ special := by
  have escapes : ∀ c ∈ metacharacters, c ≠ asterisk → c ∈ special := by decide +kernel
  have nothingElse : ∀ c ∈ special, c ∈ metacharacters := by decide +kernel
  exact ⟨fun meaning => escapes b meaning literal, nothingElse b⟩

theorem begins_literal_iff (plain : b ∉ metacharacters) :
    Begins dot (b :: regex) text ↔ ∃ rest, text = b :: rest ∧ Begins dot regex rest := by
  constructor
  · intro begins
    cases begins with
    | literal _ begins => exact ⟨_, rfl, begins⟩
    | escaped => exact absurd (by decide) plain
    | run => exact absurd (by decide) plain
  · rintro ⟨rest, rfl, begins⟩
    exact .literal plain begins

theorem begins_escaped_iff (meaning : b ∈ metacharacters) :
    Begins dot (backslash :: b :: regex) text ↔
      ∃ rest, text = b :: rest ∧ Begins dot regex rest := by
  constructor
  · intro begins
    cases begins with
    | literal plain => exact absurd (by decide) plain
    | escaped _ begins => exact ⟨_, rfl, begins⟩
  · rintro ⟨rest, rfl, begins⟩
    exact .escaped meaning begins

theorem begins_run_iff :
    Begins dot (fullStop :: asterisk :: regex) text ↔
      ∃ run rest, text = run ++ rest ∧ (∀ b ∈ run, dot b) ∧ Begins dot regex rest := by
  constructor
  · intro begins
    cases begins with
    | literal plain => exact absurd (by decide) plain
    | run dots begins => exact ⟨_, _, rfl, dots, begins⟩
  · rintro ⟨run, rest, rfl, dots, begins⟩
    exact .run dots begins

/-- An asterisk stands for any run of the bytes that the full stop stands for. -/
theorem begins_expression_asterisk_cons_iff :
    Begins dot (expression (asterisk :: pattern)) text ↔
      ∃ run rest, text = run ++ rest ∧ (∀ b ∈ run, dot b) ∧
        Begins dot (expression pattern) rest := by
  rw [expression, List.flatMap_cons, if_pos rfl]
  exact begins_run_iff

/-- A byte other than the asterisk stands only for itself, whether it is escaped or not. -/
theorem begins_expression_cons_iff (literal : b ≠ asterisk) :
    Begins dot (expression (b :: pattern)) text ↔
      ∃ rest, text = b :: rest ∧ Begins dot (expression pattern) rest := by
  rw [expression, List.flatMap_cons, if_neg literal]
  by_cases escape : b ∈ special
  · rw [if_pos escape]
    exact begins_escaped_iff ((mem_metacharacters_iff literal).2 escape)
  · rw [if_neg escape]
    exact begins_literal_iff (mt (mem_metacharacters_iff literal).1 escape)

/-- A match begins a text when the first part does and the other parts make up the rest. -/
theorem begins_expression_iff {first : Bytes} (eq : parts pattern = first :: others)
    (dots : ∀ b ∈ text, dot b) :
    Begins dot (expression pattern) text ↔
      ∃ rest, text = first ++ rest ∧ Decomposes others rest := by
  induction pattern generalizing text first others with
  | nil =>
    obtain ⟨rfl, rfl⟩ : [] = first ∧ [] = others := List.cons.inj eq
    constructor
    · intro _
      exact ⟨text, rfl, .rest text⟩
    · intro _
      exact .nil text
  | cons b pattern ih =>
    obtain ⟨next, later, split⟩ := exists_parts_eq_cons pattern
    by_cases literal : b = asterisk
    · subst literal
      rw [parts_asterisk_cons, split] at eq
      obtain ⟨rfl, rfl⟩ : [] = first ∧ next :: later = others := List.cons.inj eq
      rw [begins_expression_asterisk_cons_iff]
      constructor
      · rintro ⟨run, tail, rfl, -, begins⟩
        have behind := fun c among => dots c (List.mem_append_right run among)
        exact ⟨run ++ tail, rfl,
          decomposes_cons_iff_exists_end.2 ⟨run, tail, rfl, (ih split behind).1 begins⟩⟩
      · rintro ⟨_, rfl, made⟩
        obtain ⟨run, tail, rfl, found⟩ := decomposes_cons_iff_exists_end.1 made
        have within := fun c among => dots c (List.mem_append_left tail among)
        have behind := fun c among => dots c (List.mem_append_right run among)
        exact ⟨run, tail, rfl, within, (ih split behind).2 found⟩
    · rw [parts_cons literal, split, List.modifyHead_cons] at eq
      obtain ⟨rfl, rfl⟩ : b :: next = first ∧ later = others := List.cons.inj eq
      rw [begins_expression_cons_iff literal]
      constructor
      · rintro ⟨tail, rfl, begins⟩
        have behind := fun c among => dots c (List.mem_cons_of_mem b among)
        obtain ⟨rest, rfl, made⟩ := (ih split behind).1 begins
        exact ⟨rest, rfl, made⟩
      · rintro ⟨rest, rfl, made⟩
        have behind := fun c among => dots c (List.mem_cons_of_mem b among)
        exact ⟨next ++ rest, rfl, (ih split behind).2 ⟨rest, rfl, made⟩⟩

/-- The search finds the expression of a pattern where the parts make up the text. -/
theorem finds_expression_iff (dots : ∀ b ∈ text, dot b) :
    Finds dot (expression pattern) text ↔ Decomposes (parts pattern) text := by
  obtain ⟨first, others, split⟩ := exists_parts_eq_cons pattern
  rw [split, decomposes_cons_iff_exists_end]
  constructor
  · rintro ⟨before, tail, rfl, begins⟩
    have behind := fun c among => dots c (List.mem_append_right before among)
    exact ⟨before, tail, rfl, (begins_expression_iff split behind).1 begins⟩
  · rintro ⟨before, tail, rfl, found⟩
    have behind := fun c among => dots c (List.mem_append_right before among)
    exact ⟨before, tail, rfl, (begins_expression_iff split behind).2 found⟩

end Search

end Wildcard

namespace Rule

open Wildcard

theorem hostPattern_accepts_iff_decomposes {pattern : Bytes} (given : pattern ≠ []) (flow : Flow) :
    (hostPattern pattern).accepts flow = true ↔
      ∃ host, flow.host = some host ∧ Decomposes (parts pattern) host := by
  cases target : flow.host with
  | none => simp [accepts, target]
  | some host => simp [accepts, target, given, occursIn, occurInOrder_iff]

/-- The rule of a pattern accepts the flows whose host is made of the literal parts between the
pattern's asterisks, one run of bytes before each part and one after the last. These are the
hosts in which a search finds the pattern's regular expression, if the full stop stands for every
byte of the host. -/
theorem hostPattern_accepts_iff {pattern : Bytes} (given : pattern ≠ []) (flow : Flow) :
    ([asterisk].intercalate (parts pattern) = pattern ∧
      ∀ part ∈ parts pattern, asterisk ∉ part) ∧
    ((hostPattern pattern).accepts flow = true ↔
      ∃ host gaps last, flow.host = some host ∧ gaps.length = (parts pattern).length ∧
        host = (List.zipWith (· ++ ·) gaps (parts pattern)).flatten ++ last) ∧
    ∀ host (dot : UInt8 → Prop), flow.host = some host → (∀ b ∈ host, dot b) →
      ((hostPattern pattern).accepts flow = true ↔ Finds dot (expression pattern) host) := by
  have decomposes := hostPattern_accepts_iff_decomposes given flow
  refine ⟨⟨intercalate_parts pattern, fun part => asterisk_not_mem_of_mem_parts⟩, ?_, ?_⟩
  · simp only [decomposes, decomposes_iff_exists_gaps, exists_and_left]
  · intro host dot target dots
    rw [decomposes, finds_expression_iff dots, target]
    simp only [Option.some.injEq, exists_eq_left']

/-- The two parts of this pattern may not share the `a` between them. -/
theorem hostPattern_accepts_iff_of_shared_ends :
    ascii "aba*aba" ≠ [] ∧
      (¬ ∃ gaps last, gaps.length = 2 ∧
        ascii "ababa" = (List.zipWith (· ++ ·) gaps [ascii "aba", ascii "aba"]).flatten ++ last) ∧
      Finds (· ≠ nul) (ascii "aba.*aba") (ascii "xabaaba") := by
  have given : ascii "aba*aba" ≠ [] := by decide
  refine ⟨given, ?_, ?_⟩
  · rintro ⟨gaps, last, length, eq⟩
    have accepted := (hostPattern_accepts_iff given { host := some (ascii "ababa") }).2.1.2
      ⟨ascii "ababa", gaps, last, rfl, length, eq⟩
    exact absurd accepted (by decide)
  · have clean : nul ∉ ascii "xabaaba" := by decide
    apply ((hostPattern_accepts_iff given { host := some (ascii "xabaaba") }).2.2
      (ascii "xabaaba") (· ≠ nul) rfl fun b among => ne_of_mem_of_not_mem among clean).1
    decide

end Rule

end ProxyRouting
