import ProxyRouting.Proofs.Config.Validity
import ProxyRouting.Proofs.Text.Integer

/-!
# A written configuration is read back

A list of proxies can be written as a document in many ways: the fields of an entry stand in any
order and among fields that mean nothing, what is absent is left out or null, a weight of 1 and an
empty list of rules may be left out, and a number has all its decimal spellings. `Holds` has all
these documents, and each of them is read as exactly the list that it was written from
(`readProxies_of_holds`), with no notice but those about URLs.

The relation is blind to the order of fields and to fields under other keys (`Writes.rearrange`).
Reading back needs that the proxies are `Configurable`: they are valid, and no text of theirs is
that of a null. No weaker condition would do, since every proxy that is read from a document is like
this (`exists_readProxies_iff`).
-/

namespace ProxyRouting

/-! ### The values under a key -/

namespace Document

variable {d : Document} {key : Bytes}

/-- All values under a key. -/
def values (d : Document) (key : Bytes) : List Document :=
  (d.children.filter (·.1 = key)).map (·.2)

theorem child?_eq_head?_values (d : Document) (key : Bytes) :
    d.child? key = (d.values key).head? := by
  unfold child? values
  induction d.children with
  | nil => rfl
  | cons entry rest ih =>
    obtain ⟨other, value⟩ := entry
    by_cases same : other = key
    · subst same
      simp
    · have differs : (key == other) = false := beq_false_of_ne (Ne.symm same)
      rw [List.lookup_cons, differs, List.filter_cons_of_neg (by simpa using same)]
      exact ih

/-- The order of the entries, and entries under other keys, do not change the values under a key
that stands there only once. -/
theorem values_mapping_of_perm {entries more others : List (Bytes × Document)}
    (perm : more.Perm (entries ++ others)) (unknown : ∀ other ∈ others, other.1 ≠ key)
    (once : ((mapping entries).values key).length ≤ 1) :
    (mapping more).values key = (mapping entries).values key := by
  have none : others.filter (·.1 = key) = [] :=
    List.filter_eq_nil_iff.2 fun other mem => by simpa using unknown other mem
  have filtered : (more.filter (·.1 = key)).Perm (entries.filter (·.1 = key)) := by
    simpa [List.filter_append, none] using perm.filter (·.1 = key)
  have short : (entries.filter (·.1 = key)).length ≤ 1 := by
    simpa [values, mapping, children] using once
  show (more.filter (·.1 = key)).map (·.2) = (entries.filter (·.1 = key)).map (·.2)
  generalize entries.filter (·.1 = key) = kept at filtered short ⊢
  cases kept with
  | nil => rw [List.perm_nil.1 filtered]
  | cons entry rest =>
    obtain rfl : rest = [] := by simpa using short
    rw [List.perm_singleton.1 filtered]

theorem map_snd_sequence (items : List Document) : (sequence items).children.map (·.2) = items := by
  rw [sequence, children, List.map_map]
  exact List.map_id items

end Document

/-! ### Writing -/

namespace Config

/-- The values under the key of a text: the text, or for an absent one nothing or a null. -/
inductive WritesText : Option Bytes → List Document → Prop
  /-- The text. -/
  | given (text : Bytes) : WritesText (some text) [.scalar text]
  /-- An absent text is left out. -/
  | omitted : WritesText none []
  /-- An absent text is a null. -/
  | null : WritesText none [.null]

theorem WritesText.length_le {value : Option Bytes} {values : List Document}
    (writes : WritesText value values) : values.length ≤ 1 := by
  cases writes <;> simp

/-- The values under the key of a weight: the number, or for 1 perhaps nothing. -/
inductive WritesWeight : Nat → List Document → Prop
  /-- The number. -/
  | given {weight : Nat} {text : Bytes} :
      Integer.Writes weight text → WritesWeight weight [.scalar text]
  /-- The weight 1 is left out. -/
  | omitted : WritesWeight 1 []

theorem WritesWeight.length_le {weight : Nat} {values : List Document}
    (writes : WritesWeight weight values) : values.length ≤ 1 := by
  cases writes <;> simp

end Config

/-- The nodes of a rule: under their keys they have its type and what belongs to it. -/
inductive Rule.Writes : Rule → Document → Prop
  /-- A host rule, with its pattern. -/
  | hostPattern {pattern : Bytes} {node : Document} :
      node.values (ascii "type") = [.scalar (ascii "host_pattern")] →
      node.values (ascii "pattern") = [.scalar pattern] → Writes (.hostPattern pattern) node
  /-- A port rule, with its port. -/
  | port {number : UInt16} {text : Bytes} {node : Document} :
      node.values (ascii "type") = [.scalar (ascii "port")] →
      node.values (ascii "port") = [.scalar text] →
      Integer.Writes number.toNat text → Writes (.port number) node
  /-- A fallback rule. -/
  | fallback {node : Document} :
      node.values (ascii "type") = [.scalar (ascii "default")] → Writes .fallback node

/-- The values under the key of the rules: their list, or for no rules perhaps nothing. -/
inductive Config.WritesRules : List Rule → List Document → Prop
  /-- The list of the rules. -/
  | given {rules : List Rule} {nodes : List Document} :
      List.Forall₂ Rule.Writes rules nodes → WritesRules rules [.sequence nodes]
  /-- No rules are left out. -/
  | omitted : WritesRules [] []

theorem Config.WritesRules.length_le {rules : List Rule} {values : List Document}
    (writes : WritesRules rules values) : values.length ≤ 1 := by
  cases writes <;> simp

/-- The entries of a proxy: each field stands under its key, and only once. -/
structure Proxy.Writes (proxy : Proxy) (entry : Document) : Prop where
  /-- The name is given. -/
  name : Config.WritesText (some proxy.name) (entry.values (ascii "name"))
  /-- The URL is given. -/
  url : Config.WritesText (some proxy.url) (entry.values (ascii "url"))
  /-- The weight may be left out if it is 1. -/
  weight : Config.WritesWeight proxy.weight.toNat (entry.values (ascii "weight"))
  /-- The user may be absent. -/
  username : Config.WritesText proxy.username (entry.values (ascii "username"))
  /-- The password may be absent. -/
  password : Config.WritesText proxy.password (entry.values (ascii "password"))
  /-- The rules may be left out if there are none. -/
  rules : Config.WritesRules proxy.rules (entry.values (ascii "rules"))

/-- The document has a list of entries for these proxies, in their order. -/
def Config.Holds (d : Document) (proxies : List Proxy) : Prop :=
  ∃ entries, d.child? (ascii "proxies") = some (.sequence entries) ∧
    List.Forall₂ Proxy.Writes proxies entries

/-- The keys of an entry that mean something. -/
def Proxy.keys : List Bytes :=
  [ascii "name", ascii "url", ascii "weight", ascii "username", ascii "password", ascii "rules"]

/-- The fields of an entry may be put into another order, and other fields added. -/
theorem Proxy.Writes.rearrange {proxy : Proxy} {fields more others : List (Bytes × Document)}
    (writes : proxy.Writes (.mapping fields)) (perm : more.Perm (fields ++ others))
    (unknown : ∀ other ∈ others, other.1 ∉ keys) : proxy.Writes (.mapping more) := by
  have same : ∀ key ∈ keys, ((Document.mapping fields).values key).length ≤ 1 →
      (Document.mapping more).values key = (Document.mapping fields).values key :=
    fun key known once => Document.values_mapping_of_perm perm
      (fun other mem is => unknown other mem (is ▸ known)) once
  exact {
    name := same _ (by decide) writes.name.length_le ▸ writes.name
    url := same _ (by decide) writes.url.length_le ▸ writes.url
    weight := same _ (by decide) writes.weight.length_le ▸ writes.weight
    username := same _ (by decide) writes.username.length_le ▸ writes.username
    password := same _ (by decide) writes.password.length_le ▸ writes.password
    rules := same _ (by decide) writes.rules.length_le ▸ writes.rules }

/-! ### A writer -/

/-- A rule with its type and what belongs to it. -/
def Rule.toDocument : Rule → Document
  | hostPattern pattern =>
    .mapping [(ascii "type", .scalar (ascii "host_pattern")), (ascii "pattern", .scalar pattern)]
  | port number =>
    .mapping [(ascii "type", .scalar (ascii "port")),
      (ascii "port", .scalar (Decimal.ofNat number.toNat))]
  | fallback => .mapping [(ascii "type", .scalar (ascii "default"))]

/-- A text, or a null for an absent one. -/
def Document.ofText? : Option Bytes → Document
  | some text => .scalar text
  | none => .null

/-- A proxy with all its fields. -/
def Proxy.toDocument (proxy : Proxy) : Document :=
  .mapping [(ascii "name", .scalar proxy.name), (ascii "url", .scalar proxy.url),
    (ascii "weight", .scalar (Decimal.ofNat proxy.weight.toNat)),
    (ascii "username", .ofText? proxy.username), (ascii "password", .ofText? proxy.password),
    (ascii "rules", .sequence (proxy.rules.map Rule.toDocument))]

theorem Rule.writes_toDocument (rule : Rule) : rule.Writes rule.toDocument := by
  cases rule with
  | hostPattern pattern => exact .hostPattern rfl rfl
  | port number => exact .port rfl rfl (Integer.writes_ofNat _)
  | fallback => exact .fallback rfl

theorem Document.writes_ofText? (value : Option Bytes) :
    Config.WritesText value [.ofText? value] := by
  cases value with
  | some text => exact .given text
  | none => exact .null

theorem Proxy.writes_toDocument (proxy : Proxy) : proxy.Writes proxy.toDocument where
  name := .given _
  url := .given _
  weight := .given (Integer.writes_ofNat _)
  username := Document.writes_ofText? _
  password := Document.writes_ofText? _
  rules := .given (List.forall₂_map_right_iff.2
    (List.forall₂_same.2 fun rule _ => rule.writes_toDocument))

namespace Config

/-- The document of some proxies. -/
def write (proxies : List Proxy) : Document :=
  .mapping [(ascii "proxies", .sequence (proxies.map Proxy.toDocument))]

theorem child?_write (proxies : List Proxy) : (write proxies).child? (ascii "proxies") =
    some (.sequence (proxies.map Proxy.toDocument)) := rfl

theorem writes_map_toDocument (proxies : List Proxy) :
    List.Forall₂ Proxy.Writes proxies (proxies.map Proxy.toDocument) :=
  List.forall₂_map_right_iff.2 (List.forall₂_same.2 fun proxy _ => proxy.writes_toDocument)

end Config

/-! ### Proxies that can be configured -/

/-- A proxy that can be read from a document: it is valid, and no text of it is that of a null. -/
structure Proxy.Configurable (proxy : Proxy) : Prop extends Proxy.Valid proxy where
  /-- The name is not the text of a null. -/
  name : proxy.name ≠ Document.nullText
  /-- Nor is the URL. -/
  url : proxy.url ≠ Document.nullText
  /-- Nor is the user. -/
  username : proxy.username ≠ some Document.nullText
  /-- Nor is the password. -/
  password : proxy.password ≠ some Document.nullText
  /-- Nor is any pattern. -/
  patterns : .hostPattern Document.nullText ∉ proxy.rules

/-! ### Reading it back -/

namespace Document

variable {d : Document} {key : Bytes}

theorem text?_of_writes {value : Option Bytes} (writes : Config.WritesText value (d.values key))
    (notNull : value ≠ some nullText) : d.text? key = value := by
  rw [text?, child?_eq_head?_values]
  generalize d.values key = values at writes
  cases writes with
  | given text =>
    have : text ≠ nullText := fun is => notNull (congrArg some is)
    simp [scalar, children, Document.text, this]
  | omitted => rfl
  | null => rfl

/-- A field with one text is read as this text. -/
theorem text?_of_values {text : Bytes} (values : d.values key = [.scalar text])
    (notNull : text ≠ nullText) : d.text? key = some text :=
  text?_of_writes (values ▸ .given text) fun is => notNull (Option.some.inj is)

theorem integer?_of_values {n : Nat} {text : Bytes} (values : d.values key = [.scalar text])
    (writes : Integer.Writes n text) (small : n ≤ 2147483647) :
    d.integer? key = some (n : Int) := by
  rw [integer?, child?_eq_head?_values, values]
  exact Integer.read?_of_writes writes small

end Document

namespace Config

variable {d entry : Document} {name : Bytes}

/-! ### Rules -/

theorem readRule_of_writes {rule : Rule} {node : Document} (writes : rule.Writes node)
    (valid : rule.Valid) (notNull : .hostPattern Document.nullText ≠ rule) :
    readRule name node = .ok rule := by
  cases writes with
  | hostPattern type values =>
    next pattern =>
    have reads := Document.text?_of_values values
      fun is => notNull (congrArg Rule.hostPattern is.symm)
    rw [readRule, Document.text?_of_values type (by decide), reads]
    cases pattern with
    | nil => exact absurd rfl valid
    | cons b rest => rfl
  | port type values text =>
    next number _ =>
    have reads := Document.integer?_of_values values text (Nat.le_trans valid.2 (by decide))
    have range : (1 : Int) ≤ number.toNat ∧ (number.toNat : Int) ≤ 65535 :=
      ⟨Int.ofNat_le.2 valid.1, Int.ofNat_le.2 valid.2⟩
    rw [readRule, Document.text?_of_values type (by decide), reads]
    dsimp only [Option.getD]
    rw [if_neg (by decide), if_pos rfl, if_pos range, Int.toNat_natCast, UInt16.ofNat_toNat]
  | fallback type =>
    rw [readRule, Document.text?_of_values type (by decide)]
    rfl

theorem readRules_of_writes {rules : List Rule} {nodes : List Document}
    (writes : List.Forall₂ Rule.Writes rules nodes)
    (valid : ∀ rule ∈ rules, rule.Valid) (notNull : .hostPattern Document.nullText ∉ rules) :
    readRules name nodes = (rules, []) := by
  induction writes with
  | nil => rfl
  | cons writes _ ih =>
    obtain ⟨first, later⟩ := List.forall_mem_cons.1 valid
    obtain ⟨notFirst, notLater⟩ := not_or.1 (mt List.mem_cons.2 notNull)
    rw [readRules, ih later notLater, readRule_of_writes writes first notFirst]

theorem items_of_writes {rules : List Rule} {key : Bytes}
    (writes : WritesRules rules (d.values key)) :
    List.Forall₂ Rule.Writes rules (items d key) := by
  rw [items, Document.child?_eq_head?_values]
  generalize d.values key = values at writes
  cases writes with
  | given all =>
    show List.Forall₂ Rule.Writes rules ((Document.sequence _).children.map (·.2))
    rwa [Document.map_snd_sequence]
  | omitted => exact .nil

/-! ### Entries -/

theorem weight_of_writes {weight : Nat} {key : Bytes}
    (writes : WritesWeight weight (d.values key)) (small : weight ≤ 2147483647) :
    (d.integer? key).getD 1 = weight := by
  generalize listed : d.values key = values at writes
  cases writes with
  | given text => rw [Document.integer?_of_values listed text small, Option.getD_some]
  | omitted =>
    rw [Document.integer?, Document.child?_eq_head?_values, listed]
    rfl

/-- The entry of a proxy is read as the proxy. -/
theorem readEntry?_of_writes {proxy : Proxy} (writes : proxy.Writes entry)
    (configurable : proxy.Configurable) :
    readEntry? entry = some ⟨some proxy, urlNotices proxy.name proxy.url⟩ := by
  have weight := weight_of_writes writes.weight configurable.weight_le
  have rules : readRules proxy.name (items entry (ascii "rules")) = (proxy.rules, []) :=
    readRules_of_writes (items_of_writes writes.rules) configurable.rules configurable.patterns
  have positive : ¬ (proxy.weight.toNat : Int) < 1 :=
    Int.not_lt.2 (Int.ofNat_le.2 configurable.weight_pos)
  have name : entry.text? (ascii "name") = some proxy.name :=
    Document.text?_of_writes writes.name fun is => configurable.name (Option.some.inj is)
  have url : entry.text? (ascii "url") = some proxy.url :=
    Document.text?_of_writes writes.url fun is => configurable.url (Option.some.inj is)
  refine readEntry?_eq_some_iff.2 ⟨_, _, name, url, ?_⟩
  rw [readNamed, weight, if_neg positive, rules,
    Document.text?_of_writes writes.username configurable.username,
    Document.text?_of_writes writes.password configurable.password,
    Int.toNat_natCast, UInt32.ofNat_toNat]
  rfl

/-- The notices about the URLs of some proxies. -/
def allUrlNotices (proxies : List Proxy) : List Notice :=
  proxies.flatMap fun proxy => urlNotices proxy.name proxy.url

theorem readEntries_of_writes {proxies : List Proxy} {entries : List Document}
    (writes : List.Forall₂ Proxy.Writes proxies entries)
    (configurable : ∀ proxy ∈ proxies, proxy.Configurable) (position : Nat) :
    readEntries position entries = (.ok proxies, allUrlNotices proxies) := by
  induction writes generalizing position with
  | nil => rfl
  | cons writes _ ih =>
    obtain ⟨first, later⟩ := List.forall_mem_cons.1 configurable
    rw [readEntries, readEntry?_of_writes writes first]
    dsimp only
    rw [ih later]
    rfl

theorem hasEntries_of_sequence {entries : List Document}
    (child : d.child? (ascii "proxies") = some (.sequence entries)) : HasEntries d entries :=
  ⟨_, child, fun _ => rfl, (Document.map_snd_sequence entries).symm⟩

/-- A list of written entries is read as their proxies. -/
theorem readProxies_sequence {proxies : List Proxy} {entries : List Document}
    (child : d.child? (ascii "proxies") = some (.sequence entries))
    (writes : List.Forall₂ Proxy.Writes proxies entries)
    (configurable : ∀ proxy ∈ proxies, proxy.Configurable) :
    readProxies d = (.ok proxies, allUrlNotices proxies) := by
  rw [readProxies_of_hasEntries (hasEntries_of_sequence child),
    readEntries_of_writes writes configurable]

/-! ### Reading gives nothing else -/

theorem ne_nullText_of_text? {key value : Bytes} (reads : d.text? key = some value) :
    value ≠ Document.nullText := by
  unfold Document.text? at reads
  split at reads
  · split at reads
    · next child _ notNull =>
      cases reads
      rw [Bool.and_eq_true, decide_eq_true_eq] at notNull
      exact notNull.2
    · cases reads
  · cases reads

theorem readRule_ne_null {node : Document} :
    readRule name node ≠ .ok (.hostPattern Document.nullText) := by
  intro reads
  unfold readRule at reads
  dsimp only at reads
  split at reads
  · cases pattern : node.text? (ascii "pattern") with
    | none =>
      rw [pattern] at reads
      cases reads
    | some text =>
      have notNull := ne_nullText_of_text? pattern
      rw [pattern] at reads
      cases text with
      | nil => cases reads
      | cons b rest =>
        injection reads with same
        exact notNull (Rule.hostPattern.inj same)
  · grind

/-- **Every proxy of a document is configurable.** -/
theorem configurable_of_readProxies {proxies : List Proxy} {proxy : Proxy}
    (reads : (readProxies d).1 = .ok proxies) (mem : proxy ∈ proxies) : proxy.Configurable := by
  obtain ⟨entry, name, url, hasName, hasUrl, gives⟩ := exists_readNamed_of_mem reads mem
  have valid := valid_of_readNamed gives
  unfold readNamed at gives
  dsimp only at gives
  split at gives
  · cases gives
  · cases gives
    refine ⟨valid, ne_nullText_of_text? hasName, ne_nullText_of_text? hasUrl, ?_, ?_, ?_⟩
    · intro isNull
      exact ne_nullText_of_text? isNull rfl
    · intro isNull
      exact ne_nullText_of_text? isNull rfl
    · intro mem
      obtain ⟨_, _, reads⟩ := exists_readRule_of_mem mem
      exact readRule_ne_null reads

/-! ### Main statements -/

/-- **A written configuration is read as the proxies that it was written from**, in their order, and
nothing is noticed but unusable URLs. -/
theorem readProxies_of_holds {proxies : List Proxy} (holds : Holds d proxies)
    (configurable : ∀ proxy ∈ proxies, proxy.Configurable) :
    readProxies d = (.ok proxies, allUrlNotices proxies) := by
  obtain ⟨entries, child, writes⟩ := holds
  exact readProxies_sequence child writes configurable

/-- An entry with its fields in another order than they are listed, and with others. -/
def shuffledEntry : Document :=
  .mapping [
    (ascii "rules", .sequence [
      .mapping [(ascii "port", .scalar (ascii " +0443")), (ascii "type", .scalar (ascii "port"))],
      .mapping [(ascii "pattern", .scalar (ascii "*.org")), (ascii "note", .null),
        (ascii "type", .scalar (ascii "host_pattern"))]]),
    (ascii "password", .scalar []), (ascii "color", .sequence [.null]),
    (ascii "username", .null), (ascii "url", .scalar (ascii "http://a")),
    (ascii "name", .scalar (ascii "a"))]

/-- A document with this entry, and with other keys around it. -/
def shuffled : Document :=
  .mapping [(ascii "version", .scalar (ascii "2")), (ascii "proxies", .sequence [shuffledEntry]),
    (ascii "proxies", .null)]

/-- The proxy of that entry. -/
def shuffledProxy : Proxy where
  name := ascii "a"
  url := ascii "http://a"
  rules := [.port 443, .hostPattern (ascii "*.org")]
  password := some []

theorem readProxies_of_holds_shuffled :
    Holds shuffled [shuffledProxy] ∧ shuffledProxy.Configurable ∧
      readProxies shuffled = (.ok [shuffledProxy], []) := by
  have number : Integer.Writes 443 (ascii " +0443") :=
    .mk [0x20] [plusSign] [] 1 (by simp [Integer.isBlank]) (Or.inr rfl) (by simp)
  have writes : shuffledProxy.Writes shuffledEntry := {
    name := .given _
    url := .given _
    weight := .omitted
    username := .null
    password := .given _
    rules := .given (.cons (.port rfl rfl number) (.cons (.hostPattern rfl rfl) .nil)) }
  have holds : Holds shuffled [shuffledProxy] := ⟨_, rfl, .cons writes .nil⟩
  have valid : shuffledProxy.Valid := {
    weight_pos := by decide
    weight_le := by decide
    rules := List.forall_mem_cons.2 ⟨⟨by decide, by decide⟩,
      List.forall_mem_singleton.2 (by decide : ascii "*.org" ≠ [])⟩ }
  have configurable : shuffledProxy.Configurable :=
    ⟨valid, by decide, by decide, by decide, by decide, by decide⟩
  refine ⟨holds, configurable, ?_⟩
  rw [readProxies_of_holds holds (List.forall_mem_singleton.2 configurable)]
  decide +kernel

/-- **The lists of proxies that can be read are those whose proxies are configurable.** -/
theorem exists_readProxies_iff {proxies : List Proxy} :
    (∃ d, (readProxies d).1 = .ok proxies) ↔ ∀ proxy ∈ proxies, proxy.Configurable := by
  constructor
  · rintro ⟨d, reads⟩ proxy mem
    exact configurable_of_readProxies reads mem
  · intro configurable
    refine ⟨write proxies, ?_⟩
    rw [readProxies_sequence (child?_write proxies) (writes_map_toDocument proxies) configurable]

end Config

end ProxyRouting
