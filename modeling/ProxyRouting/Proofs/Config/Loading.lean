import ProxyRouting.Config.Load

/-!
# When a configuration is loaded

A load gives a registry if and only if the directory has a configuration file with a list of
proxies in which every entry has a name and a URL; the registry is then the one of all these
entries (`load_eq_loaded_iff`). One entry that lacks either is enough for the file to be refused,
however many stand before it (`load_of_incomplete`).
-/

namespace ProxyRouting.Config

variable {lookup : Lookup} {directory file : Bytes} {d : Document} {entries : List Document}

/-! ### What a load tells -/

/-- How a load ends. -/
inductive Status where
  /-- There was no configuration. -/
  | noConfig
  /-- The file could not be used. -/
  | failed
  /-- The file was loaded. -/
  | loaded
  deriving DecidableEq, Repr

/-- How the load ended. -/
def LoadResult.status : LoadResult → Status
  | .noConfig => .noConfig
  | .failed _ _ => .failed
  | .loaded _ => .loaded

/-- The registry that the load gave. -/
def LoadResult.given? : LoadResult → Option Registry
  | .noConfig => none
  | .failed _ _ => none
  | .loaded registry => some registry

/-- A load has ended well exactly if it has given a registry. -/
theorem LoadResult.status_eq_loaded_iff {result : LoadResult} :
    result.status = .loaded ↔ result.given?.isSome = true := by
  cases result <;> simp [status, given?]

theorem LoadResult.given?_eq_some_iff {result : LoadResult} {registry : Registry} :
    result.given? = some registry ↔ result = .loaded registry := by
  cases result <;> simp [given?]

/-! ### Entries of a document -/

/-- An entry has a name and a URL. -/
def IsComplete (entry : Document) : Prop :=
  (entry.text? (ascii "name")).isSome = true ∧ (entry.text? (ascii "url")).isSome = true

/-- The proxies of some entries. -/
def proxiesOf (entries : List Document) : List Proxy :=
  (entries.filterMap readEntry?).flatMap (·.proxy.toList)

/-- The notices about some entries. -/
def noticesOf (entries : List Document) : List Notice :=
  (entries.filterMap readEntry?).flatMap (·.notices)

theorem readEntry?_eq_some_iff {entry : Document} {read : Entry} :
    readEntry? entry = some read ↔ ∃ name url, entry.text? (ascii "name") = some name ∧
      entry.text? (ascii "url") = some url ∧ readNamed name url entry = read := by
  unfold readEntry?
  cases entry.text? (ascii "name") <;> cases entry.text? (ascii "url") <;> simp

theorem exists_readEntry?_iff {entry : Document} :
    (∃ read, readEntry? entry = some read) ↔ IsComplete entry := by
  simp only [readEntry?_eq_some_iff, IsComplete, Option.isSome_iff_exists]
  constructor
  · rintro ⟨read, name, url, hasName, hasUrl, -⟩
    exact ⟨⟨name, hasName⟩, url, hasUrl⟩
  · rintro ⟨⟨name, hasName⟩, url, hasUrl⟩
    exact ⟨_, name, url, hasName, hasUrl, rfl⟩

/-- Complete entries are read before all others, and change nothing for them but their position. -/
theorem readEntries_append {before : List Document} (complete : ∀ entry ∈ before, IsComplete entry)
    (position : Nat) (after : List Document) :
    readEntries position (before ++ after) =
      ((readEntries (position + before.length) after).1.map (proxiesOf before ++ ·),
        noticesOf before ++ (readEntries (position + before.length) after).2) := by
  induction before generalizing position with
  | nil => cases later : readEntries position after with
    | mk result notices => cases result <;> simp [later, proxiesOf, noticesOf, Except.map]
  | cons first rest ih =>
    obtain ⟨isComplete, later⟩ := List.forall_mem_cons.1 complete
    obtain ⟨read, reads⟩ := exists_readEntry?_iff.2 isComplete
    rw [List.cons_append, readEntries, reads]
    simp only [ih later, List.length_cons, Nat.add_right_comm position 1, ← Nat.add_assoc]
    simp only [proxiesOf, noticesOf, List.filterMap_cons, reads, List.flatMap_cons,
      List.append_assoc]
    cases (readEntries (position + rest.length + 1) after).1 <;> rfl

/-- Entries that are all complete are read one by one. -/
theorem readEntries_of_complete (complete : ∀ entry ∈ entries, IsComplete entry)
    (position : Nat) :
    readEntries position entries = (.ok (proxiesOf entries), noticesOf entries) := by
  have reads := readEntries_append complete position []
  simpa only [List.append_nil, readEntries, Except.map] using reads

/-- The first entry that is not complete is told, and what was noticed before it. -/
theorem readEntries_of_incomplete {before after : List Document} {entry : Document}
    (complete : ∀ entry ∈ before, IsComplete entry) (incomplete : ¬ IsComplete entry)
    (position : Nat) :
    readEntries position (before ++ entry :: after) =
      (.error (.incompleteEntry (position + before.length)), noticesOf before) := by
  have refused : readEntry? entry = none :=
    Option.eq_none_iff_forall_ne_some.2 fun read reads =>
      incomplete (exists_readEntry?_iff.1 ⟨read, reads⟩)
  simp only [readEntries_append complete, readEntries, refused, Except.map, List.append_nil]

/-- Some entry is the first one that is not complete, unless all are. -/
theorem complete_or_first (entries : List Document) :
    (∀ entry ∈ entries, IsComplete entry) ∨ ∃ before entry after,
      entries = before ++ entry :: after ∧ (∀ entry ∈ before, IsComplete entry) ∧
        ¬ IsComplete entry := by
  induction entries with
  | nil => exact Or.inl fun _ mem => absurd mem List.not_mem_nil
  | cons first rest ih =>
    by_cases isComplete : IsComplete first
    · rcases ih with complete | ⟨before, entry, after, rfl, complete, incomplete⟩
      · exact Or.inl (List.forall_mem_cons.2 ⟨isComplete, complete⟩)
      · exact Or.inr ⟨first :: before, entry, after, rfl,
          List.forall_mem_cons.2 ⟨isComplete, complete⟩, incomplete⟩
    · exact Or.inr ⟨[], first, rest, rfl, fun _ mem => absurd mem List.not_mem_nil, isComplete⟩

/-- The document has a list of proxies with these entries. -/
def HasEntries (d : Document) (entries : List Document) : Prop :=
  ∃ list, d.child? (ascii "proxies") = some list ∧ (list.children = [] → list.text = []) ∧
    entries = list.children.map (·.2)

theorem readProxies_of_hasEntries (has : HasEntries d entries) :
    readProxies d = readEntries 1 entries := by
  obtain ⟨list, child, notText, rfl⟩ := has
  rw [readProxies, child]
  dsimp only
  rw [if_neg]
  rw [Bool.and_eq_true, List.isEmpty_iff, decide_eq_true_eq]
  exact fun ⟨empty, text⟩ => text (notText empty)

theorem exists_entries_of_readProxies {proxies : List Proxy}
    (reads : (readProxies d).1 = .ok proxies) : ∃ entries, HasEntries d entries := by
  unfold readProxies at reads
  split at reads
  · cases reads
  · next list child =>
    split at reads
    · cases reads
    · next notText =>
      rw [Bool.and_eq_true, List.isEmpty_iff, decide_eq_true_eq] at notText
      exact ⟨_, list, child,
        fun empty => Decidable.byContradiction fun text => notText ⟨empty, text⟩, rfl⟩

/-- The proxies of a document are those of its entries, if all of them are complete. -/
theorem readProxies_eq_ok_iff {proxies : List Proxy} :
    (readProxies d).1 = .ok proxies ↔
      ∃ entries, HasEntries d entries ∧ (∀ entry ∈ entries, IsComplete entry) ∧
        proxies = proxiesOf entries := by
  constructor
  · intro reads
    obtain ⟨entries, has⟩ := exists_entries_of_readProxies reads
    rw [readProxies_of_hasEntries has] at reads
    rcases complete_or_first entries with complete | ⟨before, entry, after, rfl, complete, not⟩
    · rw [readEntries_of_complete complete] at reads
      cases reads
      exact ⟨entries, has, complete, rfl⟩
    · rw [readEntries_of_incomplete complete not] at reads
      cases reads
  · rintro ⟨entries, has, complete, rfl⟩
    rw [readProxies_of_hasEntries has, readEntries_of_complete complete]

theorem mem_proxiesOf {proxy : Proxy} : proxy ∈ proxiesOf entries ↔
    ∃ entry ∈ entries, ∃ read, readEntry? entry = some read ∧ read.proxy = some proxy := by
  simp only [proxiesOf, List.mem_flatMap, List.mem_filterMap, Option.mem_toList]
  constructor
  · rintro ⟨read, ⟨entry, mem, reads⟩, gives⟩
    exact ⟨entry, mem, read, reads, gives⟩
  · rintro ⟨entry, mem, read, reads, gives⟩
    exact ⟨read, ⟨entry, mem, reads⟩, gives⟩

/-! ### Files -/

/-- The directory has a configuration file, which holds the document. -/
structure Finds (lookup : Lookup) (directory file : Bytes) (d : Document) : Prop where
  /-- There is a directory. -/
  isDirectory : ∃ entries, lookup directory = some (.directory entries)
  /-- The file is chosen. -/
  chosen : chosenPath? lookup directory = some file
  /-- It holds the document. -/
  document : lookup file = some (.file (.document d))

/-- What is loaded from a document. -/
def resultOf (file : Bytes) : Except SchemaError (List Proxy) → LoadResult
  | .error error => .failed file (.schema error)
  | .ok proxies => .loaded (Registry.build proxies file).1

theorem load_of_finds (finds : Finds lookup directory file d) :
    (load lookup directory).1 = resultOf file (readProxies d).1 := by
  obtain ⟨⟨_, isDirectory⟩, chosen, document⟩ := finds
  simp only [load, isDirectory, chosen, loadFile, document, readDocument, readRegistry]
  rcases readProxies d with ⟨_ | _, notices⟩ <;> rfl

/-- Only from a document a registry is loaded. -/
theorem finds_of_load {registry : Registry} (loads : (load lookup directory).1 = .loaded registry) :
    ∃ file d, Finds lookup directory file d := by
  unfold load at loads
  split at loads
  · cases loads
  · cases loads
  · next entries isDirectory =>
    split at loads
    · cases loads
    · next file chosen =>
      unfold loadFile at loads
      split at loads
      · cases loads
      · next d document =>
        unfold readDocument at document
        split at document
        · cases document
        · next held found =>
          cases document
          exact ⟨file, d, ⟨entries, isDirectory⟩, chosen, found⟩
        · cases document
        · cases document

/-! ### Main statements -/

/-- The directory configures a registry: its file has a list of complete entries, and the registry
is that of the proxies which these stand for. -/
inductive Provides (lookup : Lookup) (directory : Bytes) : Registry → Prop
  /-- All entries of the file count. -/
  | mk {file : Bytes} {d : Document} {entries : List Document} :
      Finds lookup directory file d → HasEntries d entries →
      (∀ entry ∈ entries, IsComplete entry) →
      Provides lookup directory (Registry.build (proxiesOf entries) file).1

/-- **A registry is loaded exactly if the directory configures it.** -/
theorem load_eq_loaded_iff {registry : Registry} :
    (load lookup directory).1 = .loaded registry ↔ Provides lookup directory registry := by
  constructor
  · intro loads
    obtain ⟨file, d, finds⟩ := finds_of_load loads
    rw [load_of_finds finds] at loads
    cases reads : (readProxies d).1 with
    | error error =>
      rw [reads] at loads
      cases loads
    | ok proxies =>
      rw [reads] at loads
      cases loads
      obtain ⟨entries, has, complete, rfl⟩ := readProxies_eq_ok_iff.1 reads
      exact .mk finds has complete
  · rintro ⟨finds, has, complete⟩
    rw [load_of_finds finds, readProxies_eq_ok_iff.2 ⟨_, has, complete, rfl⟩]
    rfl

/-- **An entry that is not complete spoils the file**: the load fails with its position, whatever
stands before and behind it. -/
theorem load_of_incomplete {before after : List Document} {entry : Document}
    (finds : Finds lookup directory file d) (has : HasEntries d (before ++ entry :: after))
    (complete : ∀ entry ∈ before, IsComplete entry) (incomplete : ¬ IsComplete entry) :
    (load lookup directory).1 =
      .failed file (.schema (.incompleteEntry (before.length + 1))) := by
  rw [load_of_finds finds, readProxies_of_hasEntries has,
    readEntries_of_incomplete complete incomplete, Nat.add_comm]
  rfl

example :
    (load (FileTree.locate? (.directory [(ascii "proxies.yaml", .file (.document (.mapping
      [(ascii "proxies", .sequence
        [.mapping [(ascii "name", .scalar (ascii "a")), (ascii "url", .scalar (ascii "http://a"))],
          .mapping [(ascii "name", .scalar (ascii "b"))]])])))])) (ascii ".")).1 =
      .failed (ascii "./proxies.yaml") (.schema (.incompleteEntry 2)) := by decide +kernel

/-- Wherever it stands, an entry that is not complete leaves nothing of the file. -/
theorem load_of_mem_incomplete {entry : Document} (finds : Finds lookup directory file d)
    (has : HasEntries d entries) (mem : entry ∈ entries) (incomplete : ¬ IsComplete entry) :
    ∃ position, (load lookup directory).1 =
      .failed file (.schema (.incompleteEntry position)) := by
  rcases complete_or_first entries with complete | ⟨before, first, after, rfl, complete, not⟩
  · exact absurd (complete entry mem) incomplete
  · exact ⟨_, load_of_incomplete finds has complete not⟩

end ProxyRouting.Config
