import Mathlib.Data.List.Perm.Basic
import ProxyRouting.Proofs.Config.Places

/-!
# The choice of the configuration file

Which file of a directory is chosen is said without its listing: it is `proxies.yaml` if that is a
file, and else the first of the configuration files by name (`IsFirst`), of which there is one if
there are any. So the order in which the directory is listed does not count, nor does that in which
those on the way to it are (`chosenPath?_of_directory`).
-/

namespace ProxyRouting.Config

open FileTree (Likeness IsPlain IsTaken join)

variable {names : List Bytes} {name : Bytes} {entries listing : List (Bytes × FileTree)}

/-! ### The first name -/

theorem firstName?_eq_none_iff : firstName? names = none ↔ names = [] := by
  cases names with
  | nil => simp [firstName?]
  | cons first rest =>
    rw [firstName?]
    cases firstName? rest <;> simp

theorem least_of_firstName? (found : firstName? names = some name) :
    name ∈ names ∧ ∀ other ∈ names, name ≤ other := by
  induction names generalizing name with
  | nil => cases found
  | cons first rest ih =>
    rw [List.forall_mem_cons]
    cases later : firstName? rest with
    | none =>
      obtain rfl := firstName?_eq_none_iff.1 later
      obtain rfl := Option.some.inj found
      exact ⟨List.mem_cons_self, List.le_refl _, nofun⟩
    | some least =>
      obtain ⟨mem, below⟩ := ih later
      rw [firstName?, later] at found
      obtain rfl := Option.some.inj found
      split
      · next before => exact ⟨List.mem_cons_of_mem _ mem, List.le_of_lt before, below⟩
      · next before =>
        have le : first ≤ least := List.not_lt.1 before
        exact ⟨List.mem_cons_self, List.le_refl _,
          fun other here => List.le_trans le (below other here)⟩

/-- The first of some names is the least of them, byte by byte. -/
theorem firstName?_eq_some_iff :
    firstName? names = some name ↔ name ∈ names ∧ ∀ other ∈ names, name ≤ other := by
  refine ⟨least_of_firstName?, ?_⟩
  rintro ⟨mem, below⟩
  cases found : firstName? names with
  | none =>
    rw [firstName?_eq_none_iff.1 found] at mem
    cases mem
  | some least =>
    obtain ⟨here, least'⟩ := least_of_firstName? found
    rw [List.le_antisymm (least' name mem) (below least here)]

theorem firstName?_perm {others : List Bytes} (perm : names.Perm others) :
    firstName? names = firstName? others := by
  ext name
  simp only [firstName?_eq_some_iff, perm.mem_iff]

/-! ### Configuration files -/

/-- The extension of a name that ends in a full stop and letters: the full stop is the last one, and
is not the first byte. -/
theorem extension_eq_iff {letters : Bytes} (last : fullStop ∉ letters) :
    extension name = fullStop :: letters ↔
      ∃ stem, stem ≠ [] ∧ name = stem ++ fullStop :: letters := by
  unfold extension
  constructor
  · intro eq
    split at eq
    · next stem rest cut =>
      split at eq
      · cases eq
      · next nonempty =>
        cases eq
        exact ⟨stem, nonempty, (cutLast?_eq_some_iff.1 cut).1⟩
    · cases eq
  · rintro ⟨stem, nonempty, rfl⟩
    rw [cutLast?_eq_some_iff.2 ⟨rfl, last⟩]
    exact if_neg nonempty

/-- A name with one of the extensions of configuration files. -/
def HasConfigExtension (name : Bytes) : Prop :=
  ∃ stem, stem ≠ [] ∧
    (name = stem ++ ascii ".yaml" ∨ name = stem ++ ascii ".yml" ∨ name = stem ++ ascii ".json")

theorem isConfigName_iff : isConfigName name = true ↔ HasConfigExtension name := by
  have yaml : extension name = ascii ".yaml" ↔ ∃ stem, stem ≠ [] ∧ name = stem ++ ascii ".yaml" :=
    @extension_eq_iff name (ascii "yaml") (by decide)
  have yml : extension name = ascii ".yml" ↔ ∃ stem, stem ≠ [] ∧ name = stem ++ ascii ".yml" :=
    @extension_eq_iff name (ascii "yml") (by decide)
  have json : extension name = ascii ".json" ↔ ∃ stem, stem ≠ [] ∧ name = stem ++ ascii ".json" :=
    @extension_eq_iff name (ascii "json") (by decide)
  simp only [isConfigName, Bool.or_eq_true, decide_eq_true_eq, or_assoc, yaml, yml, json,
    HasConfigExtension, and_or_left, exists_or]

theorem mem_fileNames : name ∈ fileNames entries ↔ ∃ content, (name, .file content) ∈ entries := by
  induction entries with
  | nil => simp [fileNames]
  | cons entry rest ih =>
    rcases entry with ⟨other, content | others⟩
    · simp [fileNames, ih, exists_or]
    · simp [fileNames, ih]

/-- The directory has a configuration file with the name. -/
structure HasConfigFile (entries : List (Bytes × FileTree)) (name : Bytes) : Prop where
  /-- It is a file. -/
  isFile : ∃ content, (name, .file content) ∈ entries
  /-- Its name has one of the extensions. -/
  extension : HasConfigExtension name

/-- The name is the first one of the configuration files, byte by byte. -/
structure IsFirst (entries : List (Bytes × FileTree)) (name : Bytes) : Prop where
  /-- It is that of one. -/
  has : HasConfigFile entries name
  /-- No other is before it. -/
  least : ∀ other, HasConfigFile entries other → name ≤ other

theorem mem_configNames : name ∈ (fileNames entries).filter isConfigName ↔
    HasConfigFile entries name := by
  rw [List.mem_filter, mem_fileNames, isConfigName_iff]
  exact ⟨fun ⟨isFile, extension⟩ => ⟨isFile, extension⟩, fun has => ⟨has.isFile, has.extension⟩⟩

theorem firstName?_configNames :
    firstName? ((fileNames entries).filter isConfigName) = some name ↔ IsFirst entries name := by
  simp only [firstName?_eq_some_iff, mem_configNames]
  exact ⟨fun ⟨has, least⟩ => ⟨has, least⟩, fun first => ⟨first.has, first.least⟩⟩

/-! ### Listings -/

/-- Two file trees are the same but for the order in which directories are listed. No name is listed
twice. -/
inductive FileTree.Relisted : FileTree → FileTree → Prop
  /-- The files are the same. -/
  | file (content : Content) : Relisted (.file content) (.file content)
  /-- The entries are the same ones, and come in some order. -/
  | directory {entries others listing : List (Bytes × FileTree)} : (entries.map Prod.fst).Nodup →
      List.Forall₂ (SameKey fun _ => FileTree.Relisted) entries others → others.Perm listing →
      Relisted (.directory entries) (.directory listing)

theorem fileNames_perm (perm : entries.Perm listing) :
    (fileNames entries).Perm (fileNames listing) := by
  induction perm with
  | nil => exact .nil
  | cons entry _ ih =>
    rcases entry with ⟨name, content | others⟩
    · exact ih.cons name
    · exact ih
  | swap entry entry' rest =>
    rcases entry with ⟨name, content | others⟩ <;> rcases entry' with ⟨name', content' | others'⟩
    · exact .swap _ _ _
    · exact .refl _
    · exact .refl _
    · exact .refl _
  | trans _ _ ih ih' => exact ih.trans ih'

theorem fileNames_of_relisted {others : List (Bytes × FileTree)}
    (same : List.Forall₂ (SameKey fun _ => FileTree.Relisted) entries others) :
    fileNames entries = fileNames others := by
  induction same with
  | nil => rfl
  | cons first _ ih =>
    obtain @⟨name, tree, tree', relisted⟩ := first
    cases relisted with
    | file content => rw [fileNames, fileNames, ih]
    | directory _ _ _ => rw [fileNames, fileNames, ih]

theorem keys_of_sameKey {α : Type} {related : Bytes → α → α → Prop}
    {entries others : List (Bytes × α)}
    (same : List.Forall₂ (SameKey related) entries others) :
    entries.map Prod.fst = others.map Prod.fst := by
  induction same with
  | nil => rfl
  | cons first _ ih =>
    obtain @⟨name, _, _, _⟩ := first
    rw [List.map_cons, List.map_cons, ih]

/-- Under a name that is listed once stands what is listed with it. -/
theorem lookup_eq_some_iff_mem {α : Type} {entries : List (Bytes × α)} {name : Bytes} {value : α}
    (distinct : (entries.map Prod.fst).Nodup) :
    entries.lookup name = some value ↔ (name, value) ∈ entries := by
  induction entries with
  | nil => simp
  | cons entry rest ih =>
    obtain ⟨other, value'⟩ := entry
    rw [List.map_cons, List.nodup_cons] at distinct
    by_cases same : name = other
    · subst same
      have once : ∀ value, (name, value) ∉ rest := fun value mem =>
        distinct.1 (List.mem_map.2 ⟨(name, value), mem, rfl⟩)
      simp [once, eq_comm]
    · have differs : (name == other) = false := beq_false_of_ne same
      rw [List.lookup_cons, differs]
      simp [ih distinct.2, same]

theorem lookup_perm {α : Type} {entries listing : List (Bytes × α)}
    (distinct : (entries.map Prod.fst).Nodup) (perm : entries.Perm listing) (name : Bytes) :
    entries.lookup name = listing.lookup name := by
  ext value
  rw [lookup_eq_some_iff_mem distinct,
    lookup_eq_some_iff_mem ((perm.map Prod.fst).nodup_iff.1 distinct), perm.mem_iff]

/-- Paths lead to the same places, however the directories on their way are listed. -/
theorem FileTree.Relisted.likeness : Likeness FileTree.Relisted where
  file := by
    rintro content tree ⟨_⟩
    exact ⟨content, rfl⟩
  directory := by
    intro entries tree relisted
    cases relisted with
    | @directory _ others listing distinct same perm =>
      have distinct' : (others.map Prod.fst).Nodup := keys_of_sameKey same ▸ distinct
      refine ⟨listing, rfl, fun name => ?_⟩
      rw [← lookup_perm distinct' perm name]
      exact rel_lookup same name
  nothing := .directory List.nodup_nil .nil (.refl [])

/-! ### The choice -/

variable {lookup lookup' : Lookup} {directory : Bytes}

/-- The path of the first configuration file in a listing. -/
def listedPath? (directory : Bytes) : Option FileTree → Option Bytes
  | some (.directory entries) =>
    (firstName? ((fileNames entries).filter isConfigName)).map (join directory)
  | _ => none

theorem chosenPath?_of_file {content : Content}
    (isFile : lookup (join directory preferredName) = some (.file content)) :
    chosenPath? lookup directory = some (join directory preferredName) := by
  rw [chosenPath?, isFile]

theorem chosenPath?_of_no_file
    (noFile : ¬ ∃ content, lookup (join directory preferredName) = some (.file content)) :
    chosenPath? lookup directory = listedPath? directory (lookup directory) := by
  unfold chosenPath? listedPath?
  dsimp only
  split
  · next content isFile => exact absurd ⟨content, isFile⟩ noFile
  · rfl

section Alike

variable {alike : FileTree → FileTree → Prop} {place place' : Option FileTree}
  (likeness : Likeness alike)

include likeness

/-- Files are like files. -/
theorem isFile_iff_of_alike (same : Option.Rel alike place place') :
    (∃ content, place = some (.file content)) ↔ ∃ content, place' = some (.file content) := by
  rcases same with @⟨tree, tree', same⟩ | _
  · cases tree with
    | file content =>
      obtain ⟨content', rfl⟩ := likeness.file same
      exact iff_of_true ⟨content, rfl⟩ ⟨content', rfl⟩
    | directory entries =>
      obtain ⟨entries', rfl, -⟩ := likeness.directory same
      exact iff_of_false nofun nofun
  · exact iff_of_false nofun nofun

variable (sameNames : ∀ entries entries', alike (.directory entries) (.directory entries') →
  (fileNames entries).Perm (fileNames entries'))

include sameNames

theorem listedPath?_congr (same : Option.Rel alike place place') (directory : Bytes) :
    listedPath? directory place = listedPath? directory place' := by
  rcases same with @⟨tree, tree', same⟩ | _
  · cases tree with
    | file content =>
      obtain ⟨content', rfl⟩ := likeness.file same
      rfl
    | directory entries =>
      obtain ⟨entries', rfl, -⟩ := likeness.directory same
      have names := (sameNames _ _ same).filter isConfigName
      rw [listedPath?, listedPath?, firstName?_perm names]
  · rfl

/-- **The choice is the same in alike file trees**, if in these a directory has the same files. -/
theorem chosenPath?_congr (same : ∀ path, Option.Rel alike (lookup path) (lookup' path))
    (directory : Bytes) : chosenPath? lookup directory = chosenPath? lookup' directory := by
  have preferred := isFile_iff_of_alike likeness (same (join directory preferredName))
  by_cases isFile : ∃ content, lookup (join directory preferredName) = some (.file content)
  · obtain ⟨content, found⟩ := isFile
    obtain ⟨content', found'⟩ := preferred.1 ⟨content, found⟩
    rw [chosenPath?_of_file found, chosenPath?_of_file found']
  · rw [chosenPath?_of_no_file isFile, chosenPath?_of_no_file (mt preferred.2 isFile),
      listedPath?_congr likeness sameNames (same directory)]

end Alike

/-- The order in which directories are listed does not count. -/
theorem chosenPath?_of_relisted {working working' : FileTree} (relisted : working.Relisted working')
    (directory : Bytes) :
    chosenPath? working.locate? directory = chosenPath? working'.locate? directory := by
  refine chosenPath?_congr FileTree.Relisted.likeness ?_
    (FileTree.Relisted.likeness.locate? relisted) directory
  intro entries listing same
  cases same with
  | directory _ same perm =>
    rw [fileNames_of_relisted same]
    exact fileNames_perm perm

/-- The preferred file is in the directory, and its path leads to it. -/
structure HasPreferred (directory : Bytes) (entries : List (Bytes × FileTree)) : Prop where
  /-- It is a file. -/
  isFile : ∃ content, (preferredName, .file content) ∈ entries
  /-- The system takes its path. -/
  isTaken : IsTaken (join directory preferredName)

theorem isPlain_preferredName : IsPlain preferredName where
  nonempty := by decide
  ne_here := by decide
  ne_above := by decide
  slash_not_mem := by decide
  nul_not_mem := by decide

/-- It is one of the configuration files. -/
theorem HasPreferred.hasConfigFile (has : HasPreferred directory entries) :
    HasConfigFile entries preferredName where
  isFile := has.isFile
  extension := ⟨ascii "proxies", by decide, Or.inl rfl⟩

section Directory

variable {working : FileTree} (found : working.locate? directory = some (.directory entries))
  (distinct : (entries.map Prod.fst).Nodup)

include found distinct

theorem hasPreferred_iff : HasPreferred directory entries ↔
    ∃ content, working.locate? (join directory preferredName) = some (.file content) := by
  simp only [FileTree.locate?_join_eq_file_iff isPlain_preferredName found,
    lookup_eq_some_iff_mem distinct]
  constructor
  · rintro ⟨⟨content, mem⟩, taken⟩
    exact ⟨content, taken, mem⟩
  · rintro ⟨content, taken, mem⟩
    exact ⟨⟨content, mem⟩, taken⟩

theorem chosenPath?_of_hasPreferred (has : HasPreferred directory entries) :
    chosenPath? working.locate? directory = some (join directory preferredName) := by
  obtain ⟨content, preferred⟩ := (hasPreferred_iff found distinct).1 has
  exact chosenPath?_of_file preferred

theorem chosenPath?_of_not_hasPreferred (hasNot : ¬ HasPreferred directory entries) {path : Bytes} :
    chosenPath? working.locate? directory = some path ↔
      ∃ name, IsFirst entries name ∧ path = join directory name := by
  rw [hasPreferred_iff found distinct] at hasNot
  rw [chosenPath?_of_no_file hasNot, found, listedPath?, Option.map_eq_some_iff]
  constructor
  · rintro ⟨name, first, joined⟩
    exact ⟨name, firstName?_configNames.1 first, joined.symm⟩
  · rintro ⟨name, first, joined⟩
    exact ⟨name, firstName?_configNames.2 first, joined.symm⟩

/-- What is chosen is the path of a configuration file. -/
theorem hasConfigFile_of_chosenPath? {path : Bytes}
    (chosen : chosenPath? working.locate? directory = some path) :
    ∃ name, HasConfigFile entries name ∧ path = join directory name := by
  by_cases has : HasPreferred directory entries
  · rw [chosenPath?_of_hasPreferred found distinct has] at chosen
    exact ⟨preferredName, has.hasConfigFile, (Option.some.inj chosen).symm⟩
  · obtain ⟨name, first, eq⟩ := (chosenPath?_of_not_hasPreferred found distinct has).1 chosen
    exact ⟨name, first.has, eq⟩

theorem chosenPath?_eq_none_iff :
    chosenPath? working.locate? directory = none ↔ ¬ ∃ name, HasConfigFile entries name := by
  by_cases has : HasPreferred directory entries
  · rw [chosenPath?_of_hasPreferred found distinct has]
    exact iff_of_false nofun fun none => none ⟨_, has.hasConfigFile⟩
  · rw [hasPreferred_iff found distinct] at has
    rw [chosenPath?_of_no_file has, found, listedPath?, Option.map_eq_none_iff,
      firstName?_eq_none_iff, List.eq_nil_iff_forall_not_mem, not_exists]
    simp only [mem_configNames]

end Directory

/-! ### Main statement -/

/-- **The choice of the configuration file** in a directory without two entries of one name. It does
not depend on the order in which any directory is listed. It is `proxies.yaml` if that is a file
(and its path is not too long for the system), and else the first configuration file by name. There
is none exactly if there is no configuration file, and the name that is chosen is never that of a
directory. -/
theorem preferred_or_first_is_chosen {working : FileTree} {directory : Bytes}
    {entries : List (Bytes × FileTree)}
    (found : working.locate? directory = some (.directory entries))
    (distinct : (entries.map Prod.fst).Nodup) :
    let chosen := chosenPath? working.locate? directory
    (∀ working', working.Relisted working' → chosenPath? working'.locate? directory = chosen) ∧
    (HasPreferred directory entries → chosen = some (join directory preferredName)) ∧
    (¬ HasPreferred directory entries → ∀ path, chosen = some path ↔
      ∃ name, IsFirst entries name ∧ path = join directory name) ∧
    (chosen = none ↔ ¬ ∃ name, HasConfigFile entries name) ∧
    ∀ path, chosen = some path → ∃ name, HasConfigFile entries name ∧ path = join directory name ∧
      ∀ others, (name, .directory others) ∉ entries := by
  intro chosen
  refine ⟨fun working' relisted => (chosenPath?_of_relisted relisted directory).symm,
    chosenPath?_of_hasPreferred found distinct,
    fun hasNot _ => chosenPath?_of_not_hasPreferred found distinct hasNot,
    chosenPath?_eq_none_iff found distinct, fun path isChosen => ?_⟩
  obtain ⟨name, has, eq⟩ := hasConfigFile_of_chosenPath? found distinct isChosen
  refine ⟨name, has, eq, fun others mem => ?_⟩
  obtain ⟨content, isFile⟩ := has.isFile
  rw [← lookup_eq_some_iff_mem distinct] at isFile mem
  cases isFile.symm.trans mem

/-- A directory is passed over even if it has the preferred name, and so is a name that is all
extension. Listed from the end, the directory gives the same file. -/
theorem directory_is_passed_over_in_either_order :
    let file : FileTree := .file (.malformed [])
    let entries := [(ascii "proxies.yaml", .directory []), (ascii ".yaml", file),
      (ascii "c.json", file), (ascii "a.YAML", file), (ascii "b..yml", file)]
    let tree (listing : List (Bytes × FileTree)) : FileTree :=
      .directory [(ascii "cfg", .directory listing)]
    chosenPath? (tree entries).locate? (ascii "cfg") = some (ascii "cfg/b..yml") ∧
    chosenPath? (tree entries.reverse).locate? (ascii "cfg") = some (ascii "cfg/b..yml") := by
  intro file entries tree
  have same : List.Forall₂ (SameKey fun _ => FileTree.Relisted) entries entries :=
    .cons (.mk _ (.directory List.nodup_nil .nil (.refl []))) (.cons (.mk _ (.file _))
      (.cons (.mk _ (.file _)) (.cons (.mk _ (.file _)) (.cons (.mk _ (.file _)) .nil))))
  have listed : FileTree.Relisted (.directory entries) (.directory entries.reverse) :=
    .directory (by decide) same (List.reverse_perm entries).symm
  have relisted : (tree entries).Relisted (tree entries.reverse) :=
    .directory (by decide) (.cons (.mk _ listed) .nil) (.refl _)
  obtain ⟨order, -⟩ :=
    @preferred_or_first_is_chosen (tree entries) (ascii "cfg") entries rfl (by decide)
  have chosen : chosenPath? (tree entries).locate? (ascii "cfg") = some (ascii "cfg/b..yml") := by
    decide +kernel
  exact ⟨chosen, (order _ relisted).trans chosen⟩

end ProxyRouting.Config
