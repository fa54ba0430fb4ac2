import Mathlib.Data.List.Forall2
import Mathlib.Tactic.Positivity
import Mathlib.Tactic.Ring
import ProxyRouting.Address.IPv6
import ProxyRouting.Proofs.Address.IPv4
import ProxyRouting.Proofs.Text.Cutting
import ProxyRouting.Proofs.Text.Percent

/-!
# The texts of an IPv6 address

An address has many texts. They are given here by a grammar: eight groups of one to four
hexadecimal digits with colons between them, where the last two groups may be an IPv4 address, or
fewer groups and once a double colon in place of one or more zeros (`IPv6.Writes`). The reader
accepts exactly these texts, each as its address (`IPv6.parse?_eq_some_iff`).

The reader cuts a text at the first double colon. In a text of the grammar this is the only one,
because a sequence of groups neither begins nor ends with a colon, and has no two of them in a row
(`cutText?_append_of_writesGroups`).
-/

namespace ProxyRouting.IPv6

/-! ### The grammar -/

/-- The number that some hexadecimal digits stand for. -/
def hexValue (digits : List Nat) : Nat := digits.foldl (fun n digit => 16 * n + digit) 0

/-- `text` is a text of the group: one to four hexadecimal digits, which stand for it. -/
structure WritesGroup (group : UInt16) (text : Bytes) : Prop where
  /-- There is a digit. -/
  nonempty : text ≠ []
  /-- There are at most four. -/
  short : text.length ≤ 4
  /-- There is nothing else, and they stand for the group. -/
  value : ∃ digits, List.Forall₂ Percent.HexDigit digits text ∧ hexValue digits = group.toNat

/-- The texts of one or more groups with colons between them. If `dotted` allows it, an IPv4
address may stand for the last two. -/
inductive WritesGroups (dotted : Bool) : List UInt16 → Bytes → Prop
  /-- A group. -/
  | group {group : UInt16} {text : Bytes} : WritesGroup group text →
      WritesGroups dotted [group] text
  /-- An IPv4 address. -/
  | address {address : IPv4} : dotted = true →
      WritesGroups dotted (dottedGroups address) address.text
  /-- A group before others. -/
  | cons {group : UInt16} {groups : List UInt16} {text rest : Bytes} : WritesGroup group text →
      WritesGroups dotted groups rest →
      WritesGroups dotted (group :: groups) (text ++ colon :: rest)

/-- The texts on one side of a double colon, where there may be no groups. -/
inductive WritesSide (dotted : Bool) : List UInt16 → Bytes → Prop
  /-- Nothing. -/
  | nil : WritesSide dotted [] []
  /-- Some groups. -/
  | groups {groups : List UInt16} {text : Bytes} : WritesGroups dotted groups text →
      WritesSide dotted groups text

/-- The texts of an address. -/
inductive Writes (address : IPv6) : Bytes → Prop
  /-- All eight groups. -/
  | full {text : Bytes} : WritesGroups true address.groups text → Writes address text
  /-- A double colon in place of one or more zeros. -/
  | compressed {left right : List UInt16} {before after : Bytes} (zeros : Nat) :
      WritesSide false left before → WritesSide true right after →
      address.groups = left ++ List.replicate (zeros + 1) 0 ++ right →
      Writes address (before ++ [colon, colon] ++ after)

variable {dotted : Bool} {text before after : Bytes} {group : UInt16} {groups : List UInt16}
  {address : IPv6}

/-! ### Groups -/

/-- The group with one more digit behind those that it was read from. -/
def withDigit (group : Option UInt16) (b : UInt8) : Option UInt16 :=
  match group, Percent.hexDigit? b with
  | some g, some digit => some (16 * g + digit.toUInt16)
  | _, _ => none

theorem foldl_withDigit_none (text : Bytes) : text.foldl withDigit none = none := by
  induction text with
  | nil => rfl
  | cons b rest ih => exact ih

/-- The text stands for the number, behind digits that stand for `start`. -/
def Continues (start n : Nat) (text : Bytes) : Prop :=
  ∃ digits, List.Forall₂ Percent.HexDigit digits text ∧
    digits.foldl (fun n digit => 16 * n + digit) start = n

theorem continues_nil_iff {start n : Nat} : Continues start n [] ↔ start = n := by
  simp [Continues]

theorem continues_cons_iff {start n : Nat} {b : UInt8} {rest : Bytes} :
    Continues start n (b :: rest) ↔
      ∃ digit, Percent.hexDigit? b = some digit ∧ Continues (16 * start + digit.toNat) n rest := by
  constructor
  · rintro ⟨digits, all, value⟩
    obtain ⟨digit, others, isDigit, later, rfl⟩ := List.forall₂_cons_right_iff.1 all
    have small : (UInt8.ofNat digit).toNat = digit :=
      UInt8.toNat_ofNat_of_lt' (Nat.lt_trans isDigit.lt (by decide))
    refine ⟨UInt8.ofNat digit, Percent.hexDigit?_eq_some_iff.2 (small.symm ▸ isDigit), others,
      later, ?_⟩
    rw [small]
    exact value
  · rintro ⟨digit, reads, others, later, value⟩
    exact ⟨digit.toNat :: others, .cons (Percent.hexDigit?_eq_some_iff.1 reads) later, value⟩

/-- As long as the digits fit into sixteen bits, the group is the number that they stand for. -/
theorem foldl_withDigit_eq_some_iff {start : UInt16}
    (fits : (start.toNat + 1) * 16 ^ text.length ≤ 65536) :
    text.foldl withDigit (some start) = some group ↔
      Continues start.toNat group.toNat text := by
  induction text generalizing start with
  | nil => rw [List.foldl_nil, Option.some.injEq, continues_nil_iff, UInt16.toNat_inj]
  | cons b rest ih =>
    rw [List.foldl_cons, continues_cons_iff]
    cases reads : Percent.hexDigit? b with
    | none =>
      have refused : withDigit (some start) b = none := by simp only [withDigit, reads]
      rw [refused, foldl_withDigit_none]
      simp
    | some digit =>
      have accepted : withDigit (some start) b = some (16 * start + digit.toUInt16) := by
        simp only [withDigit, reads]
      have small := (Percent.hexDigit?_eq_some_iff.1 reads).lt
      have split : (start.toNat + 1) * 16 ^ (rest.length + 1) =
          (16 * start.toNat + 16) * 16 ^ rest.length := by
        rw [Nat.pow_succ]
        ring
      rw [List.length_cons, split] at fits
      have room : 16 * start.toNat + 16 ≤ 65536 :=
        Nat.le_trans (Nat.le_mul_of_pos_right _ (by positivity)) fits
      have next : (16 * start + digit.toUInt16).toNat = 16 * start.toNat + digit.toNat := by
        rw [UInt16.toNat_add, UInt16.toNat_mul, UInt8.toNat_toUInt16]
        show (16 * start.toNat % 65536 + digit.toNat) % 65536 = _
        omega
      have stillFits : ((16 * start + digit.toUInt16).toNat + 1) * 16 ^ rest.length ≤ 65536 := by
        refine Nat.le_trans (Nat.mul_le_mul_right _ ?_) fits
        rw [next]
        omega
      rw [accepted, ih stillFits, next]
      simp only [Option.some.injEq, exists_eq_left']

/-- Four digits fit into sixteen bits. -/
theorem fits_of_short (short : text.length ≤ 4) :
    ((0 : UInt16).toNat + 1) * 16 ^ text.length ≤ 65536 := by
  have := Nat.pow_le_pow_right (n := 16) (by decide) short
  simpa using this

/-- A group is read exactly from its texts. -/
theorem group?_eq_some_iff : group? text = some group ↔ WritesGroup group text := by
  have folds : group? text =
      if text = [] ∨ 4 < text.length then none else text.foldl withDigit (some 0) := rfl
  rw [folds]
  constructor
  · intro reads
    split at reads
    · cases reads
    · next size =>
      obtain ⟨nonempty, short⟩ := not_or.1 size
      have short : text.length ≤ 4 := Nat.le_of_not_lt short
      exact ⟨nonempty, short, (foldl_withDigit_eq_some_iff (fits_of_short short)).1 reads⟩
  · rintro ⟨nonempty, short, value⟩
    rw [if_neg (not_or.2 ⟨nonempty, Nat.not_lt_of_le short⟩)]
    exact (foldl_withDigit_eq_some_iff (fits_of_short short)).2 value

/-- A group is made of hexadecimal digits. -/
theorem WritesGroup.mem {b : UInt8} (writes : WritesGroup group text) (mem : b ∈ text) :
    b ∈ ascii "0123456789abcdefABCDEF" := by
  obtain ⟨digits, all, -⟩ := writes.value
  clear writes
  induction all with
  | nil => cases mem
  | cons digit _ ih =>
    rcases List.mem_cons.1 mem with rfl | later
    · exact digit.mem
    · exact ih later

theorem WritesGroup.colon_not_mem (writes : WritesGroup group text) : colon ∉ text := fun mem =>
  absurd (writes.mem mem) (by decide)

theorem WritesGroup.fullStop_not_mem (writes : WritesGroup group text) : fullStop ∉ text :=
  fun mem => absurd (writes.mem mem) (by decide)

/-! ### Sequences of groups -/

theorem sequence?_cons (first next : Bytes) (rest : List Bytes) :
    sequence? dotted (first :: next :: rest) =
      match group? first, sequence? dotted (next :: rest) with
      | some g, some gs => some (g :: gs)
      | _, _ => none := rfl

/-- The last text of a sequence is a group, or an IPv4 address. -/
theorem sequence?_singleton_iff :
    sequence? dotted [text] = some groups ↔
      (∃ group, WritesGroup group text ∧ groups = [group]) ∨
        dotted = true ∧ ∃ address : IPv4, text = address.text ∧ groups = dottedGroups address := by
  rw [sequence?]
  cases reads : group? text with
  | some group =>
    have writes := group?_eq_some_iff.1 reads
    simp only [Option.some.injEq]
    constructor
    · rintro rfl
      exact Or.inl ⟨group, writes, rfl⟩
    · rintro (⟨other, same, rfl⟩ | ⟨-, address, rfl, -⟩)
      · rw [group?_eq_some_iff.2 same, Option.some.injEq] at reads
        rw [reads]
      · exact absurd IPv4.fullStop_mem_text writes.fullStop_not_mem
  | none =>
    have noGroup : ¬ ∃ group, WritesGroup group text ∧ groups = [group] := by
      rintro ⟨group, writes, -⟩
      rw [group?_eq_some_iff.2 writes] at reads
      cases reads
    cases dotted with
    | false => simp [noGroup]
    | true =>
      simp only [if_true, Option.map_eq_some_iff, IPv4.parse?_eq_some_iff, noGroup, false_or,
        true_and]
      exact exists_congr fun _ => and_congr_right fun _ => eq_comm

/-- The texts between the colons are read as the groups that they spell together. -/
theorem writesGroups_of_sequence? {parts : List Bytes} (nonempty : parts ≠ [])
    (reads : sequence? dotted parts = some groups) :
    WritesGroups dotted groups ([colon].intercalate parts) := by
  induction parts generalizing groups with
  | nil => exact absurd rfl nonempty
  | cons first rest ih =>
    cases rest with
    | nil =>
      rw [List.intercalate_singleton]
      rcases sequence?_singleton_iff.1 reads with ⟨group, writes, rfl⟩ | ⟨allowed, _, rfl, rfl⟩
      · exact .group writes
      · exact .address allowed
    | cons next rest =>
      rw [sequence?_cons] at reads
      split at reads
      · next group groups readsFirst readsRest =>
        cases reads
        rw [List.intercalate_cons_cons, List.append_assoc]
        exact .cons (group?_eq_some_iff.1 readsFirst) (ih (by simp) readsRest)
      · cases reads

/-- **A sequence of groups is read exactly from its texts.** -/
theorem sequence?_splitOn_iff :
    sequence? dotted (text.splitOn colon) = some groups ↔ WritesGroups dotted groups text := by
  constructor
  · intro reads
    have writes := writesGroups_of_sequence? (List.splitOn_ne_nil colon text) reads
    rwa [List.intercalate_splitOn] at writes
  · intro writes
    induction writes with
    | group writes =>
      rw [List.splitOn_eq_singleton writes.colon_not_mem]
      exact sequence?_singleton_iff.2 (Or.inl ⟨_, writes, rfl⟩)
    | address allowed =>
      rw [List.splitOn_eq_singleton IPv4.colon_not_mem_text]
      exact sequence?_singleton_iff.2 (Or.inr ⟨allowed, _, rfl, rfl⟩)
    | @cons group groups text rest writes _ ih =>
      rw [splitOn_append_cons, List.splitOn_eq_singleton writes.colon_not_mem,
        List.singleton_append]
      obtain ⟨next, parts, eq⟩ := List.exists_cons_of_ne_nil (List.splitOn_ne_nil colon rest)
      rw [eq] at ih ⊢
      rw [sequence?_cons, group?_eq_some_iff.2 writes, ih]

/-! ### The double colon -/

theorem WritesGroups.ne_nil (writes : WritesGroups dotted groups text) : text ≠ [] := by
  cases writes with
  | group writes => exact writes.nonempty
  | address _ => exact List.ne_nil_of_mem IPv4.fullStop_mem_text
  | cons _ _ => simp

/-- A sequence of groups does not begin with a colon. -/
theorem WritesGroups.head_ne (writes : WritesGroups dotted groups text) :
    text.head? ≠ some colon := by
  cases writes with
  | group writes => exact fun is => writes.colon_not_mem (List.mem_of_head? is)
  | address _ => exact fun is => IPv4.colon_not_mem_text (List.mem_of_head? is)
  | cons writes _ =>
    rw [List.head?_append_of_ne_nil _ writes.nonempty]
    exact fun is => writes.colon_not_mem (List.mem_of_head? is)

theorem cutText?_cons_of_not (b : UInt8) (rest : Bytes)
    (here : ∀ after, b :: rest ≠ [colon, colon] ++ after) :
    cutText? [colon, colon] (b :: rest) =
      (cutText? [colon, colon] rest).map fun (before, after) => (b :: before, after) := by
  rw [cutText?, isPrefixOf?_eq_none_iff.2 here]

/-- Without a colon in it, a text has no double colon, nor has it the first one of two. -/
theorem cutText?_append_of_colon_not_mem (noColon : colon ∉ text) (rest : Bytes) :
    cutText? [colon, colon] (text ++ rest) =
      (cutText? [colon, colon] rest).map fun (before, after) => (text ++ before, after) := by
  induction text with
  | nil => simp
  | cons b text ih =>
    obtain ⟨notFirst, notLater⟩ := not_or.1 (mt List.mem_cons.2 noColon)
    have here : ∀ after, b :: (text ++ rest) ≠ [colon, colon] ++ after :=
      fun after eq => notFirst (List.cons.inj eq).1.symm
    rw [List.cons_append, cutText?_cons_of_not b _ here, ih notLater, Option.map_map]
    rfl

/-- **A double colon is looked for behind a sequence of groups**, since there is none in it and it
does not end with a colon. -/
theorem cutText?_append_of_writesGroups (writes : WritesGroups dotted groups text) (rest : Bytes) :
    cutText? [colon, colon] (text ++ rest) =
      (cutText? [colon, colon] rest).map fun (before, after) => (text ++ before, after) := by
  induction writes with
  | group writes => exact cutText?_append_of_colon_not_mem writes.colon_not_mem rest
  | address _ => exact cutText?_append_of_colon_not_mem IPv4.colon_not_mem_text rest
  | @cons group groups first later writes others ih =>
    have here : ∀ after, colon :: (later ++ rest) ≠ [colon, colon] ++ after := by
      intro after eq
      have head := congrArg List.head? (List.cons.inj eq).2
      rw [List.head?_append_of_ne_nil _ others.ne_nil] at head
      exact others.head_ne head
    rw [List.append_assoc, List.cons_append,
      cutText?_append_of_colon_not_mem writes.colon_not_mem, cutText?_cons_of_not colon _ here, ih,
      Option.map_map, Option.map_map]
    congr 1
    funext ⟨before, after⟩
    simp

theorem cutText?_of_writesGroups (writes : WritesGroups dotted groups text) :
    cutText? [colon, colon] text = none := by
  have behind := cutText?_append_of_writesGroups writes []
  rwa [List.append_nil] at behind

/-- A compressed text is cut at its double colon. -/
theorem cutText?_compressed (writes : WritesSide dotted groups before) :
    cutText? [colon, colon] (before ++ [colon, colon] ++ after) = some (before, after) := by
  have here : cutText? [colon, colon] ([colon, colon] ++ after) = some ([], after) :=
    cutText?_eq_some_iff.2 ⟨rfl, fun _ _ _ => Nat.zero_le _⟩
  cases writes with
  | nil => exact here
  | groups writes =>
    rw [List.append_assoc, cutText?_append_of_writesGroups writes, here]
    simp

/-- One side of a double colon is read exactly from its texts. -/
theorem sequence?_side_iff :
    sequence? dotted (side text) = some groups ↔ WritesSide dotted groups text := by
  unfold side
  constructor
  · intro reads
    split at reads
    · next empty =>
      cases reads
      exact empty ▸ .nil
    · exact .groups (sequence?_splitOn_iff.1 reads)
  · intro writes
    cases writes with
    | nil => rfl
    | groups writes =>
      rw [if_neg writes.ne_nil]
      exact sequence?_splitOn_iff.2 writes

/-! ### Addresses -/

theorem eq_of_groups {other : IPv6} (same : address.groups = other.groups) : address = other := by
  cases address
  cases other
  cases same
  rfl

/-- The zeros that are left out fill the address up to eight groups. -/
theorem fill?_eq_some_iff {left right : List UInt16} :
    fill? left right = some address ↔
      ∃ zeros, address.groups = left ++ List.replicate (zeros + 1) 0 ++ right := by
  unfold fill?
  constructor
  · intro fills
    split at fills
    · next room =>
      cases fills
      refine ⟨7 - (left.length + right.length), ?_⟩
      have count : 8 - (left.length + right.length) = 7 - (left.length + right.length) + 1 := by
        omega
      show left ++ List.replicate (8 - (left.length + right.length)) 0 ++ right = _
      rw [count]
    · cases fills
  · rintro ⟨zeros, eq⟩
    have length := address.length_groups
    rw [eq] at length
    simp only [List.length_append, List.length_replicate] at length
    have count : 8 - (left.length + right.length) = zeros + 1 := by omega
    rw [dif_pos (by omega), Option.some.injEq]
    apply eq_of_groups
    show left ++ List.replicate (8 - (left.length + right.length)) 0 ++ right = _
    rw [eq, count]

/-- **An address is read exactly from its texts.** -/
theorem parse?_eq_some_iff : parse? text = some address ↔ address.Writes text := by
  unfold parse?
  constructor
  · intro reads
    split at reads
    · next left right cut =>
      obtain ⟨rfl, -⟩ := cutText?_eq_some_iff.1 cut
      split at reads
      · next l r readsLeft readsRight =>
        obtain ⟨zeros, eq⟩ := fill?_eq_some_iff.1 reads
        exact .compressed zeros (sequence?_side_iff.1 readsLeft)
          (sequence?_side_iff.1 readsRight) eq
      · cases reads
    · split at reads
      · next groups readsAll =>
        split at reads
        · cases reads
          exact .full (sequence?_splitOn_iff.1 readsAll)
        · cases reads
      · cases reads
  · intro writes
    cases writes with
    | full writes =>
      rw [cutText?_of_writesGroups writes]
      dsimp only
      rw [sequence?_splitOn_iff.2 writes]
      dsimp only
      rw [dif_pos address.length_groups]
    | @compressed left right before after zeros writesLeft writesRight eq =>
      rw [cutText?_compressed writesLeft]
      dsimp only
      rw [sequence?_side_iff.2 writesLeft, sequence?_side_iff.2 writesRight]
      exact fill?_eq_some_iff.2 ⟨zeros, eq⟩

/-- With three groups there is a colon. -/
theorem WritesGroups.colon_mem (writes : WritesGroups dotted groups text)
    (several : 2 < groups.length) : colon ∈ text := by
  cases writes with
  | group _ => simp at several
  | address _ => simp [dottedGroups] at several
  | cons _ _ => simp

/-- There is a colon in every text of an address, so that it is not one of an IPv4 address. -/
theorem Writes.colon_mem (writes : address.Writes text) : colon ∈ text := by
  cases writes with
  | full writes => exact writes.colon_mem (by rw [address.length_groups]; decide)
  | compressed _ _ _ _ => simp

end ProxyRouting.IPv6
