import ProxyRouting.Proofs.Config.Validity
import ProxyRouting.Proofs.Config.Writing

/-!
# Entry by entry

Either all entries of a document have a name and a URL that can be used, and then each is read as
if it stood alone: the proxies and the notices are those of the entries one after the other. Or the
first entry without them is told, with the notices about the entries before it. A weight that
skips an entry is looked at only afterwards, so an entry that would be skipped spoils the document
just as well.
-/

namespace ProxyRouting

/-! ### Fields that cannot be used -/

/-- There is no text under a key that can be used. -/
inductive Document.Lacks (d : Document) (key : Bytes) : Prop where
  /-- Nothing is there. -/
  | absent : d.child? key = none → Lacks d key
  /-- The first value has values in it. -/
  | branch {child : Document} : d.child? key = some child → child.children ≠ [] → Lacks d key
  /-- The first value has the text of a null. -/
  | null {child : Document} : d.child? key = some child → child.text = nullText → Lacks d key

theorem Document.text?_eq_none_iff {d : Document} {key : Bytes} :
    d.text? key = none ↔ d.Lacks key := by
  unfold text?
  constructor
  · intro unusable
    cases first : d.child? key with
    | none => exact .absent first
    | some child =>
      rw [first] at unusable
      by_cases leaf : child.children = []
      · refine .null first (Decidable.byContradiction fun notNull => ?_)
        simp [leaf, notNull] at unusable
      · exact .branch first leaf
  · rintro (absent | ⟨first, branch⟩ | ⟨first, isNull⟩)
    · rw [absent]
    · simp [first, branch]
    · simp [first, isNull]

namespace Config

variable {d entry : Document} {entries : List Document}

/-- The entry has no usable name, or no usable URL. -/
def IsIncomplete (entry : Document) : Prop :=
  entry.Lacks (ascii "name") ∨ entry.Lacks (ascii "url")

theorem isIncomplete_iff : IsIncomplete entry ↔ ¬ IsComplete entry := by
  simp only [IsIncomplete, IsComplete, ← Document.text?_eq_none_iff, not_and_or,
    Bool.not_eq_true, Option.isSome_eq_false_iff, Option.isNone_iff_eq_none]

theorem not_isIncomplete_iff : ¬ IsIncomplete entry ↔ IsComplete entry := by
  rw [isIncomplete_iff, not_not]

/-! ### The entries of a document -/

theorem items_of_hasEntries (has : HasEntries d entries) :
    items d (ascii "proxies") = entries := by
  obtain ⟨list, first, -, rfl⟩ := has
  rw [items, first]

/-- Where there are entries, the list of proxies is no text. -/
theorem hasEntries_of_items_eq (areItems : items d (ascii "proxies") = entries)
    (notEmpty : entries ≠ []) : HasEntries d entries := by
  subst areItems
  unfold items at notEmpty ⊢
  split at notEmpty
  · next list first =>
    exact ⟨list, first, fun empty => absurd (by rw [empty, List.map_nil]) notEmpty, rfl⟩
  · exact absurd rfl notEmpty

/-- A document with these entries and nothing else. -/
def ofEntries (entries : List Document) : Document :=
  .mapping [(ascii "proxies", .sequence entries)]

theorem hasEntries_ofEntries (entries : List Document) : HasEntries (ofEntries entries) entries :=
  hasEntries_of_sequence rfl

theorem readProxies_of_complete (has : HasEntries d entries)
    (complete : ∀ entry ∈ entries, IsComplete entry) :
    readProxies d = (.ok (proxiesOf entries), noticesOf entries) := by
  rw [readProxies_of_hasEntries has, readEntries_of_complete complete]

/-- A complete entry that stands alone. -/
theorem readProxies_alone (complete : IsComplete entry) :
    readProxies (ofEntries [entry]) = (.ok (proxiesOf [entry]), noticesOf [entry]) :=
  readProxies_of_complete (hasEntries_ofEntries _) (List.forall_mem_singleton.2 complete)

/-! ### What one entry gives -/

theorem proxiesOf_cons (entry : Document) (rest : List Document) :
    proxiesOf (entry :: rest) = proxiesOf [entry] ++ proxiesOf rest := by
  unfold proxiesOf
  rw [← List.flatMap_append, ← List.filterMap_append, List.singleton_append]

theorem noticesOf_eq_flatMap (entries : List Document) :
    noticesOf entries = entries.flatMap (noticesOf [·]) := by
  induction entries with
  | nil => rfl
  | cons entry rest ih =>
    rw [List.flatMap_cons, ← ih]
    unfold noticesOf
    rw [← List.flatMap_append, ← List.filterMap_append, List.singleton_append]

/-- The proxy has the name, the URL and the weight of the entry. -/
structure StandsFor (entry : Document) (proxy : Proxy) : Prop where
  /-- The name is that of the entry. -/
  name : entry.text? (ascii "name") = some proxy.name
  /-- The URL is that of the entry. -/
  url : entry.text? (ascii "url") = some proxy.url
  /-- The weight is that of the entry. -/
  weight : weightOf entry = proxy.weight.toNat

/-- An entry with a weight below 1 gives no proxy. -/
theorem proxiesOf_of_skipped (skipped : ¬ 1 ≤ weightOf entry) : proxiesOf [entry] = [] := by
  refine List.eq_nil_iff_forall_not_mem.2 fun proxy mem => skipped ?_
  obtain ⟨_, mem, read, reads, gives⟩ := mem_proxiesOf.1 mem
  obtain rfl := List.mem_singleton.1 mem
  obtain ⟨name, url, -, -, rfl⟩ := readEntry?_eq_some_iff.1 reads
  exact (weight_of_readNamed gives).1

/-- A complete entry with a weight of at least 1 gives its proxy. -/
theorem exists_proxiesOf_eq (complete : IsComplete entry) (counts : 1 ≤ weightOf entry) :
    ∃ proxy, proxiesOf [entry] = [proxy] ∧ StandsFor entry proxy := by
  obtain ⟨name, hasName⟩ := Option.isSome_iff_exists.1 complete.1
  obtain ⟨url, hasUrl⟩ := Option.isSome_iff_exists.1 complete.2
  have reads := readEntry?_eq_some_iff.2 ⟨name, url, hasName, hasUrl, rfl⟩
  have gives : ∃ proxy, (readNamed name url entry).proxy = some proxy ∧ proxy.name = name ∧
      proxy.url = url := by
    unfold readNamed
    dsimp only
    rw [← weightOf, if_neg (Int.not_lt.2 counts)]
    exact ⟨_, rfl, rfl, rfl⟩
  obtain ⟨proxy, isProxy, rfl, rfl⟩ := gives
  refine ⟨proxy, ?_, hasName, hasUrl, (weight_of_readNamed isProxy).2.symm⟩
  simp only [proxiesOf, List.filterMap_cons, List.filterMap_nil, reads, List.flatMap_singleton,
    isProxy, Option.toList_some]

/-- The proxies are those of the entries that are not skipped, in their order. -/
theorem forall₂_proxiesOf (complete : ∀ entry ∈ entries, IsComplete entry) :
    List.Forall₂ StandsFor (entries.filter (1 ≤ weightOf ·)) (proxiesOf entries) := by
  induction entries with
  | nil => exact .nil
  | cons entry rest ih =>
    obtain ⟨first, later⟩ := List.forall_mem_cons.1 complete
    rw [proxiesOf_cons, List.filter_cons]
    by_cases counts : 1 ≤ weightOf entry
    · obtain ⟨proxy, gives, standsFor⟩ := exists_proxiesOf_eq first counts
      rw [if_pos (decide_eq_true counts), gives]
      exact .cons standsFor (ih later)
    · rw [if_neg (mt of_decide_eq_true counts), proxiesOf_of_skipped counts]
      exact ih later

/-- What the entries give is what each gives alone, one after the other. -/
theorem exists_parts (complete : ∀ entry ∈ entries, IsComplete entry) :
    ∃ parts, List.Forall₂ (fun entry part => (readProxies (ofEntries [entry])).1 = .ok part)
      entries parts ∧ proxiesOf entries = parts.flatten := by
  induction entries with
  | nil => exact ⟨[], .nil, rfl⟩
  | cons entry rest ih =>
    obtain ⟨first, later⟩ := List.forall_mem_cons.1 complete
    obtain ⟨parts, alone, same⟩ := ih later
    refine ⟨proxiesOf [entry] :: parts,
      .cons (congrArg Prod.fst (readProxies_alone first)) alone, ?_⟩
    rw [proxiesOf_cons, same, List.flatten_cons]

/-! ### When a document is refused -/

theorem fails_iff_not_ok : (∃ error, (readProxies d).1 = .error error) ↔
    ¬ ∃ proxies, (readProxies d).1 = .ok proxies := by
  cases (readProxies d).1 <;> simp

/-- A document is refused without a list of proxies, and for each entry that is not complete. -/
theorem readProxies_fails_iff : (∃ error, (readProxies d).1 = .error error) ↔
    d.child? (ascii "proxies") = none ∨
    (∃ list, d.child? (ascii "proxies") = some list ∧ list.children = [] ∧ list.text ≠ []) ∨
    ∃ entry ∈ items d (ascii "proxies"), IsIncomplete entry := by
  rw [fails_iff_not_ok]
  constructor
  · intro refused
    by_contra usable
    simp only [not_or, not_exists, not_and, not_not, not_isIncomplete_iff] at usable
    obtain ⟨present, notText, complete⟩ := usable
    obtain ⟨list, first⟩ := Option.ne_none_iff_exists'.1 present
    have has : HasEntries d (list.children.map (·.2)) := ⟨list, first, notText list first, rfl⟩
    rw [items_of_hasEntries has] at complete
    exact refused ⟨_, readProxies_eq_ok_iff.2 ⟨_, has, complete, rfl⟩⟩
  · rintro causes ⟨proxies, reads⟩
    obtain ⟨entries, has, complete, -⟩ := readProxies_eq_ok_iff.1 reads
    rcases causes with absent | ⟨list, first, leaf, text⟩ | ⟨entry, mem, incomplete⟩
    · obtain ⟨list, first, -, -⟩ := has
      rw [absent] at first
      cases first
    · obtain ⟨other, first', notText, -⟩ := has
      obtain rfl := Option.some.inj (first.symm.trans first')
      exact text (notText leaf)
    · rw [items_of_hasEntries has] at mem
      exact isIncomplete_iff.1 incomplete (complete entry mem)

/-! ### Main statement -/

/-- **How the entries of a document are read.** The document is refused exactly if it has no list of
proxies or an entry in it is not complete, whatever the weight of this entry; the first such entry
is told by its position among all of them, and what is noticed is what is noticed of the entries
before it. Otherwise the proxies and the notices are those of each entry alone, one after the
other, and there is one proxy for each entry that has a weight of at least 1. -/
theorem readProxies_entry_by_entry (d : Document) :
    ((∃ error, (readProxies d).1 = .error error) ↔
      d.child? (ascii "proxies") = none ∨
      (∃ list, d.child? (ascii "proxies") = some list ∧ list.children = [] ∧ list.text ≠ []) ∨
      ∃ entry ∈ items d (ascii "proxies"), IsIncomplete entry) ∧
    (∀ before entry after, items d (ascii "proxies") = before ++ entry :: after →
      (∀ earlier ∈ before, ¬ IsIncomplete earlier) → IsIncomplete entry →
      ∃ error, readProxies d = (.error error, (readProxies (ofEntries before)).2) ∧
        error.message = ascii "proxy entry #" ++ Decimal.ofNat (before.length + 1) ++
          ascii " lacks 'name' or 'url'") ∧
    (∀ proxies, (readProxies d).1 = .ok proxies →
      (∃ parts, List.Forall₂ (fun entry part => (readProxies (ofEntries [entry])).1 = .ok part)
        (items d (ascii "proxies")) parts ∧ proxies = parts.flatten) ∧
      List.Forall₂ StandsFor ((items d (ascii "proxies")).filter (1 ≤ weightOf ·)) proxies ∧
      (readProxies d).2 = (items d (ascii "proxies")).flatMap fun entry =>
        (readProxies (ofEntries [entry])).2) := by
  refine ⟨readProxies_fails_iff, fun before entry after areItems earlier incomplete => ?_,
    fun proxies reads => ?_⟩
  · have has := hasEntries_of_items_eq areItems (by simp)
    have complete : ∀ entry ∈ before, IsComplete entry :=
      fun entry mem => not_isIncomplete_iff.1 (earlier entry mem)
    refine ⟨.incompleteEntry (before.length + 1), ?_, rfl⟩
    rw [readProxies_of_hasEntries has,
      readEntries_of_incomplete complete (isIncomplete_iff.1 incomplete),
      readProxies_of_complete (hasEntries_ofEntries before) complete, Nat.add_comm]
  · obtain ⟨entries, has, complete, rfl⟩ := readProxies_eq_ok_iff.1 reads
    rw [items_of_hasEntries has, readProxies_of_complete has complete]
    refine ⟨exists_parts complete, forall₂_proxiesOf complete, ?_⟩
    rw [noticesOf_eq_flatMap]
    refine List.flatMap_congr fun entry mem => ?_
    rw [readProxies_alone (complete entry mem)]

/-- The third entry has a null for its URL, and the second one is skipped. -/
theorem readProxies_entry_by_entry_of_null :
    let usable : Document :=
      .mapping [(ascii "name", .scalar (ascii "a")), (ascii "url", .scalar (ascii "http://a"))]
    let skipped : Document :=
      .mapping [(ascii "weight", .scalar (ascii "0")), (ascii "url", .scalar (ascii "http://b")),
        (ascii "name", .scalar (ascii "b"))]
    let unusable : Document :=
      .mapping [(ascii "name", .scalar (ascii "c")), (ascii "url", .null),
        (ascii "weight", .scalar (ascii "-1"))]
    ∃ error, readProxies (ofEntries [usable, skipped, unusable, usable]) =
        (.error error, [.invalidWeight (ascii "b") 0]) ∧
      error.message = ascii "proxy entry #3 lacks 'name' or 'url'" := by
  intro usable skipped unusable
  obtain ⟨-, refuses, -⟩ :=
    readProxies_entry_by_entry (ofEntries [usable, skipped, unusable, usable])
  have complete : ∀ earlier ∈ [usable, skipped], ¬ IsIncomplete earlier := by
    intro earlier mem
    rw [not_isIncomplete_iff]
    rcases List.mem_pair.1 mem with rfl | rfl <;> exact ⟨by decide, by decide⟩
  obtain ⟨error, reads, message⟩ := refuses [usable, skipped] unusable [usable] rfl complete
    (Or.inr (.null rfl rfl))
  have noticed : (readProxies (ofEntries [usable, skipped])).2 =
      [.invalidWeight (ascii "b") 0] := by decide +kernel
  rw [noticed] at reads
  exact ⟨error, reads, message.trans (by decide +kernel)⟩

end Config

end ProxyRouting
