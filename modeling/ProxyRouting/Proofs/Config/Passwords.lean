import Mathlib.Data.List.Forall2
import Mathlib.Data.Option.Basic
import ProxyRouting.Config.Load
import ProxyRouting.Proofs.Config.Choice
import ProxyRouting.Proofs.Registry.Masking

/-!
# Configurations that differ in passwords

Two documents are `Alike` if they are equal but for texts under the key `password` in entries under
the key `proxies`, and none of these texts is empty or that of a null; two file trees are if the
documents in them are. Loading either of them comes to the same and makes the same notices, and
the registries that are loaded are equal when their passwords are masked (`masked_load`).
-/

namespace ProxyRouting

namespace Document

/-! ### Nodes that differ in some of their children -/

variable {may : Bytes → Document → Document → Prop} {d d' : Document} {key : Bytes}

/-- Two nodes are equal but for children that may differ. -/
structure AlikeBut (may : Bytes → Document → Document → Prop) (d d' : Document) : Prop where
  /-- The texts are the same. -/
  text : d.text = d'.text
  /-- The children stand under the same keys, and are the same if they may not differ. -/
  children : List.Forall₂ (SameKey fun key value value' => value = value' ∨ may key value value')
    d.children d'.children

theorem AlikeBut.refl (may : Bytes → Document → Document → Prop) (d : Document) :
    AlikeBut may d d where
  text := rfl
  children := List.forall₂_same.2 fun child _ => .mk child.1 (Or.inl rfl)

/-- Under each key both nodes have a child or neither has, and the two are alike. -/
theorem AlikeBut.child? (alike : AlikeBut may d d') (key : Bytes) :
    Option.Rel (fun value value' => value = value' ∨ may key value value')
      (d.child? key) (d'.child? key) :=
  rel_lookup alike.children key

/-- Where the children may not differ, they are the same. -/
theorem AlikeBut.child?_eq (alike : AlikeBut may d d')
    (firm : ∀ value value', ¬ may key value value') : d.child? key = d'.child? key := by
  have related := alike.child? key
  generalize d.child? key = found at related ⊢
  generalize d'.child? key = found' at related ⊢
  cases related with
  | none => rfl
  | some same => rw [same.resolve_right (firm _ _)]

/-! ### Documents that differ in passwords -/

/-- A text that is neither empty nor that of a null. -/
def IsPassword (d : Document) : Prop := ∃ text, d = scalar text ∧ text ≠ [] ∧ text ≠ nullText

/-- Two entries are equal but for their passwords. -/
abbrev EntryAlike : Document → Document → Prop :=
  AlikeBut fun key d d' => key = ascii "password" ∧ d.IsPassword ∧ d'.IsPassword

/-- Two lists are equal but for passwords in their entries. -/
abbrev ListAlike : Document → Document → Prop := AlikeBut fun _ => EntryAlike

/-- Two documents are equal but for passwords of proxies. -/
abbrev Alike : Document → Document → Prop :=
  AlikeBut fun key d d' => key = ascii "proxies" ∧ ListAlike d d'

/-- But for the password, two alike entries have the same fields. -/
theorem EntryAlike.child?_eq (alike : EntryAlike d d') (other : key ≠ ascii "password") :
    d.child? key = d'.child? key :=
  AlikeBut.child?_eq alike fun _ _ differ => other differ.1

theorem EntryAlike.text?_eq (alike : EntryAlike d d') (other : key ≠ ascii "password") :
    d.text? key = d'.text? key := by
  rw [text?, text?, alike.child?_eq other]

theorem EntryAlike.integer?_eq (alike : EntryAlike d d') (other : key ≠ ascii "password") :
    d.integer? key = d'.integer? key := by
  rw [integer?, integer?, alike.child?_eq other]

end Document

namespace Config

open Document (EntryAlike ListAlike)

variable {entry entry' d d' : Document}

/-! ### Entries -/

/-- What an entry comes to, with a placeholder for the password. -/
def Entry.masked (entry : Entry) : Entry := { entry with proxy := entry.proxy.map Proxy.masked }

/-- The placeholders for two passwords are the same. -/
theorem masked_password (alike : EntryAlike entry entry') :
    (entry.text? (ascii "password")).map Proxy.mask =
      (entry'.text? (ascii "password")).map Proxy.mask := by
  have related := alike.child? (ascii "password")
  unfold Document.text?
  generalize entry.child? (ascii "password") = found at related ⊢
  generalize entry'.child? (ascii "password") = found' at related ⊢
  cases related with
  | none => rfl
  | some same =>
    rcases same with rfl | ⟨-, ⟨text, rfl, notEmpty, notNull⟩, ⟨text', rfl, notEmpty', notNull'⟩⟩
    · rfl
    · simp [Document.scalar, Document.children, Document.text, Proxy.mask, notEmpty, notNull,
        notEmpty', notNull']

/-- The password has no say in anything else that is read of an entry, nor in what is noticed. -/
theorem masked_readNamed (alike : EntryAlike entry entry') (name url : Bytes) :
    (readNamed name url entry).masked = (readNamed name url entry').masked := by
  have weight : entry.integer? (ascii "weight") = entry'.integer? (ascii "weight") :=
    alike.integer?_eq (by decide)
  have rules : items entry (ascii "rules") = items entry' (ascii "rules") := by
    rw [items, items, alike.child?_eq (by decide)]
  have username : entry.text? (ascii "username") = entry'.text? (ascii "username") :=
    alike.text?_eq (by decide)
  have password := masked_password alike
  unfold readNamed
  rw [weight, rules, username]
  dsimp only
  split
  · rfl
  · simp only [Entry.masked, Option.map_some, Proxy.masked, password]

/-- What is read of an entry, with a placeholder for the password. -/
def readMasked (entry : Document) : Option Entry := readEntry? entry |>.map Entry.masked

theorem readMasked_eq (alike : EntryAlike entry entry') :
    readMasked entry = readMasked entry' := by
  have name : entry.text? (ascii "name") = entry'.text? (ascii "name") :=
    alike.text?_eq (by decide)
  have url : entry.text? (ascii "url") = entry'.text? (ascii "url") :=
    alike.text?_eq (by decide)
  unfold readMasked readEntry?
  rw [name, url]
  split
  · simp only [Option.map_some, masked_readNamed alike]
  · rfl

/-! ### Lists of entries -/

/-- What a list of entries comes to, with placeholders for the passwords. -/
def maskedReading (reading : Except SchemaError (List Proxy) × List Notice) :
    Except SchemaError (List Proxy) × List Notice :=
  (reading.1.map (List.map Proxy.masked), reading.2)

/-- Masked, a list depends on its masked first entry and on the others masked. -/
theorem maskedReading_cons (position : Nat) (entry : Document) (rest : List Document) :
    maskedReading (readEntries position (entry :: rest)) =
      match readMasked entry with
      | none => (.error (.incompleteEntry position), [])
      | some read =>
        let (proxies, notices) := maskedReading (readEntries (position + 1) rest)
        (proxies.map (read.proxy.toList ++ ·), read.notices ++ notices) := by
  rw [readEntries, readMasked]
  cases readEntry? entry with
  | none => rfl
  | some read =>
    obtain ⟨proxy, notices⟩ := read
    rcases readEntries (position + 1) rest with ⟨_ | proxies, more⟩
    · rfl
    · cases proxy <;> rfl

theorem masked_readEntries {entries entries' : List Document}
    (alike : List.Forall₂ EntryAlike entries entries') (position : Nat) :
    maskedReading (readEntries position entries) =
      maskedReading (readEntries position entries') := by
  induction alike generalizing position with
  | nil => rfl
  | cons first _ ih =>
    rw [maskedReading_cons, maskedReading_cons, readMasked_eq first, ih]

theorem alike_entries (alike : ListAlike d d') :
    List.Forall₂ EntryAlike (d.children.map (·.2)) (d'.children.map (·.2)) := by
  rw [List.forall₂_map_left_iff, List.forall₂_map_right_iff]
  refine alike.children.imp fun child child' related => ?_
  rcases related with ⟨key, rfl | differs⟩
  · exact .refl _ _
  · exact differs

/-- Alike documents have the same proxies but for the passwords, and the same is noticed. -/
theorem masked_readProxies (alike : d.Alike d') :
    maskedReading (readProxies d) = maskedReading (readProxies d') := by
  have related := alike.child? (ascii "proxies")
  unfold readProxies
  generalize d.child? (ascii "proxies") = found at related ⊢
  generalize d'.child? (ascii "proxies") = found' at related ⊢
  cases related with
  | none => rfl
  | @some list list' same =>
    have alike : ListAlike list list' := by
      rcases same with rfl | ⟨-, alike⟩
      · exact .refl _ _
      · exact alike
    have empty : list.children.isEmpty = list'.children.isEmpty := by
      rw [Bool.eq_iff_iff, List.isEmpty_iff_length_eq_zero, List.isEmpty_iff_length_eq_zero,
        alike.children.length_eq]
    dsimp only
    rw [alike.text, empty]
    split
    · rfl
    · exact masked_readEntries (alike_entries alike) 1

/-! ### Registries -/

/-- The registry of a document depends on its proxies; masked, on the masked proxies. -/
theorem masked_readRegistry (source : Bytes) (d : Document) :
    ((readRegistry source d).1.map Registry.masked, (readRegistry source d).2) =
      match maskedReading (readProxies d) with
      | (.error error, notices) => (.error error, notices)
      | (.ok proxies, notices) =>
        (.ok (Registry.build proxies source).1,
          notices ++ (Registry.build proxies source).2) := by
  unfold readRegistry
  rcases readProxies d with ⟨_ | proxies, notices⟩
  · rfl
  · have built := Registry.build_masked proxies source
    simp only [maskedReading, Except.map, built]

/-- What is noticed about a registry does not tell its passwords. -/
theorem loadedNotices_masked (registry : Registry) :
    loadedNotices registry.masked = loadedNotices registry := by
  unfold loadedNotices Registry.masked
  rw [List.length_map]
  cases registry.fallback <;> rfl

/-! ### Files -/

/-- What loading comes to, with placeholders for the passwords. -/
def LoadResult.masked : LoadResult → LoadResult
  | .noConfig => .noConfig
  | .failed source error => .failed source error
  | .loaded registry => .loaded registry.masked

/-- Two contents of a file are equal but for passwords of proxies. -/
inductive Content.Alike : Content → Content → Prop
  /-- The documents are. -/
  | document {d d' : Document} : d.Alike d' → Alike (.document d) (.document d')
  /-- The complaints are the same. -/
  | malformed (message : Bytes) : Alike (.malformed message) (.malformed message)

/-- Two file trees are equal but for passwords of proxies. -/
inductive FileTree.Alike : FileTree → FileTree → Prop
  /-- The contents of the files are. -/
  | file {content content' : Content} :
      content.Alike content' → Alike (.file content) (.file content')
  /-- The directories have the same names, and what stands under them is alike. -/
  | directory {entries entries' : List (Bytes × FileTree)} :
      List.Forall₂ (SameKey fun _ => FileTree.Alike) entries entries' →
      Alike (.directory entries) (.directory entries')

/-- Each path leads to alike places, or to none. -/
def AlikeLookup (lookup lookup' : Lookup) : Prop :=
  ∀ path, Option.Rel FileTree.Alike (lookup path) (lookup' path)

/-! ### Paths in alike file trees -/

namespace FileTree

open List (Forall₂)

mutual

theorem Alike.refl : ∀ tree : FileTree, Alike tree tree
  | .file (.document d) => .file (.document (.refl _ d))
  | .file (.malformed message) => .file (.malformed message)
  | .directory entries => .directory (entries_refl entries)

theorem entries_refl : ∀ entries : List (Bytes × FileTree),
    Forall₂ (SameKey fun _ => Alike) entries entries
  | [] => .nil
  | (name, tree) :: rest => .cons (.mk name (Alike.refl tree)) (entries_refl rest)

end

/-- Paths lead to alike places, whatever the passwords in files are. -/
theorem Alike.likeness : Likeness Alike where
  file := by
    intro content tree alike
    cases alike with
    | @file _ content' _ => exact ⟨content', rfl⟩
  directory := by
    intro entries tree alike
    cases alike with
    | @directory _ entries' same => exact ⟨entries', rfl, fun name => rel_lookup same name⟩
  nothing := .directory .nil

/-- **From alike working directories each path leads to alike places.** -/
theorem locate?_alike {working working' : FileTree} (alike : Alike working working') :
    AlikeLookup working.locate? working'.locate? :=
  Alike.likeness.locate? alike

end FileTree

theorem AlikeLookup.refl (lookup : Lookup) : AlikeLookup lookup lookup := by
  intro path
  cases lookup path with
  | none => exact .none
  | some tree => exact .some (.refl tree)

/-! ### Loading -/

variable {lookup lookup' : Lookup}

theorem fileNames_eq {entries entries' : List (Bytes × FileTree)}
    (alike : List.Forall₂ (SameKey fun _ => FileTree.Alike) entries entries') :
    fileNames entries = fileNames entries' := by
  induction alike with
  | nil => rfl
  | cons first _ ih =>
    rcases first with ⟨name, ⟨_⟩ | ⟨_⟩⟩
    · rw [fileNames, fileNames, ih]
    · rw [fileNames, fileNames, ih]

/-- Among alike files the same one is chosen. -/
theorem chosenPath?_eq (alike : AlikeLookup lookup lookup') (directory : Bytes) :
    chosenPath? lookup directory = chosenPath? lookup' directory := by
  refine chosenPath?_congr FileTree.Alike.likeness ?_ alike directory
  intro entries entries' same
  cases same with
  | directory same => exact .of_eq (fileNames_eq same)

/-- The result of a load with placeholders for the passwords, and what was noticed. -/
def maskedLoad (loading : LoadResult × List Notice) : LoadResult × List Notice :=
  (loading.1.masked, loading.2)

/-- Masked, a load depends on the masked registry. -/
theorem masked_loadFile_document {path : Bytes} (found : lookup path = some (.file (.document d))) :
    maskedLoad (loadFile lookup path) =
      match ((readRegistry path d).1.map Registry.masked, (readRegistry path d).2) with
      | (.error error, notices) => failure path (.schema error) (.loadingFile path :: notices)
      | (.ok registry, notices) =>
        (.loaded registry, .loadingFile path :: notices ++ loadedNotices registry) := by
  rw [loadFile, found]
  dsimp only [readDocument]
  rcases readRegistry path d with ⟨_ | registry, notices⟩
  · rfl
  · simp only [maskedLoad, LoadResult.masked, Except.map, loadedNotices_masked]

theorem masked_loadFile (alike : AlikeLookup lookup lookup') (path : Bytes) :
    maskedLoad (loadFile lookup path) = maskedLoad (loadFile lookup' path) := by
  have place := alike path
  generalize found : lookup path = tree at place
  generalize found' : lookup' path = tree' at place
  rcases place with ⟨⟨documents | message⟩ | ⟨_⟩⟩ | _
  · rw [masked_loadFile_document found, masked_loadFile_document found',
      masked_readRegistry, masked_readRegistry, masked_readProxies documents]
  · simp only [loadFile, found, found', readDocument]
  · simp only [loadFile, found, found', readDocument]
  · simp only [loadFile, found, found', readDocument]

/-- **Alike files are loaded alike**: with the same result but for the passwords, and with the same
notices. -/
theorem masked_load (alike : AlikeLookup lookup lookup') (directory : Bytes) :
    maskedLoad (load lookup directory) = maskedLoad (load lookup' directory) := by
  have here := alike directory
  unfold load
  rw [chosenPath?_eq alike]
  generalize lookup directory = place at here ⊢
  generalize lookup' directory = place' at here ⊢
  rcases here with ⟨⟨_⟩ | ⟨_⟩⟩ | _
  · rfl
  · dsimp only
    split
    · rfl
    · exact masked_loadFile alike _
  · rfl

end Config

end ProxyRouting
