import Mathlib.Data.List.Forall2
import Mathlib.Data.Option.Basic
import ProxyRouting.Config.Choice
import ProxyRouting.Proofs.Text.Cutting

/-!
# Where paths lead

The path of an entry leads to what the directory has under its name, if the system takes all of it:
it has no zero byte and is not too long (`locate?_join_eq_file_iff`).

A path leads to alike places in two file trees that are the same in some respect, for instance in
all but the order of their listings. `Likeness` says what that takes of the respect, and
`Likeness.locate?` is what follows.
-/

namespace ProxyRouting

/-! ### Entries under the same keys -/

/-- Two entries under one key, with values that are related. -/
inductive SameKey {α : Type} (related : Bytes → α → α → Prop) : Bytes × α → Bytes × α → Prop
  /-- The key, and the values under it. -/
  | mk (key : Bytes) {value value' : α} :
      related key value value' → SameKey related (key, value) (key, value')

/-- Under each key both lists have a first value or neither has, and the two are related. -/
theorem rel_lookup {α : Type} {related : Bytes → α → α → Prop} {entries entries' : List (Bytes × α)}
    (alike : List.Forall₂ (SameKey related) entries entries') (key : Bytes) :
    Option.Rel (related key) (entries.lookup key) (entries'.lookup key) := by
  induction alike with
  | nil => exact .none
  | cons first _ ih =>
    obtain @⟨name, value, value', alike⟩ := first
    by_cases found : key = name
    · subst found
      simpa using alike
    · have differs : (key == name) = false := beq_false_of_ne found
      rw [List.lookup_cons, List.lookup_cons, differs]
      exact ih

namespace Config

open List (Forall₂)

namespace FileTree

/-! ### Alike file trees -/

/-- A relation of file trees that paths cannot tell apart. -/
structure Likeness (alike : FileTree → FileTree → Prop) : Prop where
  /-- A file is like files. -/
  file : ∀ {content tree}, alike (.file content) tree → ∃ content', tree = .file content'
  /-- A directory is like directories with like trees under the same names. -/
  directory : ∀ {entries tree}, alike (.directory entries) tree →
    ∃ entries', tree = .directory entries' ∧
      ∀ name, Option.Rel alike (entries.lookup name) (entries'.lookup name)
  /-- What is above the working directory is like itself. -/
  nothing : alike (.directory []) (.directory [])

variable {alike : FileTree → FileTree → Prop} {trail trail' : List FileTree}

/-- From alike places one component leads to alike places. -/
theorem Likeness.step (likeness : Likeness alike) (trails : Forall₂ alike trail trail')
    (component : Bytes) :
    Option.Rel (Forall₂ alike) (step trail component) (step trail' component) := by
  cases trails with
  | nil =>
    unfold FileTree.step
    dsimp only
    split
    · exact .some .nil
    · exact .none
  | @cons tree tree' rest rest' same above =>
    cases tree with
    | file content =>
      obtain ⟨content', rfl⟩ := likeness.file same
      exact .none
    | directory entries =>
      obtain ⟨entries', rfl, under⟩ := likeness.directory same
      unfold FileTree.step
      dsimp only
      split
      · exact .some (.cons same above)
      · split
        · exact .some above
        · have found := under component
          generalize List.lookup component entries = entry at found ⊢
          generalize List.lookup component entries' = entry' at found ⊢
          cases found with
          | none => exact .none
          | some tree => exact .some (.cons tree (.cons same above))

theorem Likeness.walk (likeness : Likeness alike) (trails : Forall₂ alike trail trail')
    (components : List Bytes) :
    Option.Rel (Forall₂ alike) (walk trail components) (walk trail' components) := by
  induction components generalizing trail trail' with
  | nil => exact .some trails
  | cons component rest ih =>
    have next := likeness.step trails component
    unfold FileTree.walk
    generalize FileTree.step trail component = reached at next ⊢
    generalize FileTree.step trail' component = reached' at next ⊢
    cases next with
    | none => exact .none
    | some trails => exact ih trails

/-- Some components lead from alike places to alike places. -/
theorem Likeness.rel_end (likeness : Likeness alike) (trails : Forall₂ alike trail trail')
    (components : List Bytes) :
    Option.Rel alike ((FileTree.walk trail components).map fun trail => trail.headD (.directory []))
      ((FileTree.walk trail' components).map fun trail => trail.headD (.directory [])) := by
  have ends := likeness.walk trails components
  generalize FileTree.walk trail components = last at ends ⊢
  generalize FileTree.walk trail' components = last' at ends ⊢
  rcases ends with ⟨_ | ⟨tree, above⟩⟩ | _
  · exact .some likeness.nothing
  · exact .some tree
  · exact .none

/-- **From alike working directories each path leads to alike places.** -/
theorem Likeness.locate? (likeness : Likeness alike) {working working' : FileTree}
    (same : alike working working') (path : Bytes) :
    Option.Rel alike (working.locate? path) (working'.locate? path) := by
  unfold FileTree.locate? follow?
  split
  · exact .none
  · split
    · exact likeness.rel_end .nil _
    · exact likeness.rel_end (.cons same .nil) _

/-! ### Paths of entries -/

/-- A name that a path can end in: one component, which neither stays where it is nor goes up. -/
structure IsPlain (name : Bytes) : Prop where
  /-- There is a byte. -/
  nonempty : name ≠ []
  /-- It does not stay. -/
  ne_here : name ≠ ascii "."
  /-- It does not go up. -/
  ne_above : name ≠ ascii ".."
  /-- It is one component. -/
  slash_not_mem : slash ∉ name
  /-- It does not end the path. -/
  nul_not_mem : nul ∉ name

/-- The system takes all of a path: there is no zero byte in it, and it is not too long. -/
structure IsTaken (path : Bytes) : Prop where
  /-- No byte ends it. -/
  nul_not_mem : nul ∉ path
  /-- It is not too long. -/
  short : path.length ≤ maxPathLength

variable {working : FileTree} {directory name : Bytes} {entries : List (Bytes × FileTree)}

theorem walk_append (trail : List FileTree) (components others : List Bytes) :
    walk trail (components ++ others) = (walk trail components).bind (walk · others) := by
  induction components generalizing trail with
  | nil => rfl
  | cons component rest ih =>
    rw [List.cons_append, walk, walk]
    cases step trail component with
    | none => rfl
    | some next => exact ih next

theorem walk_singleton (trail : List FileTree) (component : Bytes) :
    walk trail [component] = step trail component := by
  rw [walk]
  cases step trail component with
  | none => rfl
  | some next => rfl

/-- An empty component leads nowhere else. -/
theorem eq_of_step_nil (stays : step trail [] = some trail') : trail' = trail := by
  unfold step at stays
  split at stays
  · cases stays
  · exact (Option.some.inj stays).symm
  · exact (Option.some.inj stays).symm

theorem step_of_isPlain (plain : IsPlain name)
    (here : trail.headD (.directory []) = .directory entries) :
    step trail name = (entries.lookup name).map (· :: trail) := by
  cases trail with
  | nil =>
    cases here
    simp [step, plain.nonempty, plain.ne_here, plain.ne_above]
  | cons tree above =>
    cases here
    simp [step, plain.nonempty, plain.ne_here, plain.ne_above]

/-- The path of an entry leads first where that of the directory leads. -/
theorem walk_join (plain : IsPlain name) (nonempty : directory ≠ [])
    (walks : walk trail (directory.splitOn slash) = some trail') :
    walk trail ((join directory name).splitOn slash) = step trail' name := by
  have alone : name.splitOn slash = [name] := List.splitOn_eq_singleton plain.slash_not_mem
  unfold join
  split
  · next ends =>
    -- The last component of the directory's path is empty, and the name takes its place.
    obtain ⟨before, rfl⟩ := List.getLast?_eq_some_iff.1 (ends.resolve_left nonempty)
    have last : ([] : Bytes).splitOn slash = [[]] := rfl
    rw [splitOn_append_cons, last, walk_append, Option.bind_eq_some_iff] at walks
    obtain ⟨reached, walks, stays⟩ := walks
    rw [walk_singleton] at stays
    rw [List.append_assoc, List.singleton_append, splitOn_append_cons, alone, walk_append, walks,
      Option.bind_some, walk_singleton, eq_of_step_nil stays]
  · rw [splitOn_append_cons, alone, walk_append, walks, Option.bind_some, walk_singleton]

theorem join_eq_append (directory name : Bytes) : ∃ rest, join directory name = directory ++ rest ∧
    ∀ b ∈ rest, b = slash ∨ b ∈ name := by
  unfold join
  split
  · exact ⟨name, rfl, fun _ => Or.inr⟩
  · exact ⟨slash :: name, rfl, fun _ => List.mem_cons.1⟩

theorem follow?_join (plain : IsPlain name) (nonempty : directory ≠ [])
    (found : working.follow? directory = some (.directory entries)) :
    working.follow? (join directory name) = entries.lookup name := by
  obtain ⟨rest, joined, -⟩ := join_eq_append directory name
  have sameStart : (join directory name).head? = directory.head? := by
    rw [joined, List.head?_append_of_ne_nil _ nonempty]
  obtain ⟨trail, walks, here⟩ := Option.map_eq_some_iff.1 found
  rw [follow?, sameStart, walk_join plain nonempty walks, step_of_isPlain plain here,
    Option.map_map]
  exact Option.map_id'

theorem nul_mem_join_iff (plain : IsPlain name) : nul ∈ join directory name ↔ nul ∈ directory := by
  obtain ⟨rest, joined, bytes⟩ := join_eq_append directory name
  have cut : nul ∉ rest := fun mem =>
    (bytes nul mem).elim (fun same => absurd same (by decide)) plain.nul_not_mem
  rw [joined, List.mem_append, or_iff_left cut]

/-- A path that is cut by a zero byte leads where it leads without what follows. -/
theorem untilNul_append_of_mem {path rest : Bytes} (cut : nul ∈ path) :
    untilNul (path ++ rest) = untilNul path := by
  have shorter : (untilNul path).length ≠ path.length := fun same =>
    untilNul_eq_self_iff.1 ((List.takeWhile_prefix _).eq_of_length same) cut
  unfold untilNul at shorter ⊢
  rw [List.takeWhile_append, if_neg shorter]

theorem locate?_eq_of_nul_not_mem {path : Bytes} (whole : nul ∉ path) (nonempty : path ≠ []) :
    working.locate? path =
      if path.length ≤ maxPathLength then working.follow? path else none := by
  rw [locate?, untilNul_eq_self_iff.2 whole]
  by_cases short : path.length ≤ maxPathLength
  · rw [if_pos short, if_neg (not_or.2 ⟨nonempty, Nat.not_lt_of_le short⟩)]
  · rw [if_neg short, if_pos (Or.inr (Nat.lt_of_not_le short))]

/-- **The path of an entry leads to a file** exactly if the entry is this file, and the system takes
all of the path. -/
theorem locate?_join_eq_file_iff (plain : IsPlain name)
    (found : working.locate? directory = some (.directory entries)) {content : Content} :
    working.locate? (join directory name) = some (.file content) ↔
      IsTaken (join directory name) ∧ entries.lookup name = some (.file content) := by
  by_cases cut : nul ∈ directory
  · obtain ⟨rest, joined, -⟩ := join_eq_append directory name
    have same : working.locate? (join directory name) = working.locate? directory := by
      rw [locate?, locate?, joined, untilNul_append_of_mem cut]
    rw [same, found]
    refine iff_of_false nofun ?_
    rintro ⟨⟨whole, -⟩, -⟩
    exact whole ((nul_mem_join_iff plain).2 cut)
  · have nonempty : directory ≠ [] := by
      rintro rfl
      cases found
    have whole : nul ∉ join directory name := mt (nul_mem_join_iff plain).1 cut
    have joined : join directory name ≠ [] := by
      obtain ⟨rest, eq, -⟩ := join_eq_append directory name
      rw [eq]
      exact List.append_ne_nil_of_left_ne_nil nonempty rest
    rw [locate?_eq_of_nul_not_mem cut nonempty] at found
    split at found
    · rw [locate?_eq_of_nul_not_mem whole joined, follow?_join plain nonempty found]
      by_cases short : (join directory name).length ≤ maxPathLength
      · rw [if_pos short, and_iff_right ⟨whole, short⟩]
      · rw [if_neg short]
        exact iff_of_false nofun fun taken => short taken.1.short
    · cases found

end FileTree

end Config

end ProxyRouting
