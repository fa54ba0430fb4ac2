import ProxyRouting.Proofs.Config.Loading
import ProxyRouting.Proofs.Registry.Build

/-!
# Configured proxies are valid

Whatever a document holds under the keys for weights and rules, a proxy that is read from it has a
positive weight of 31 bits, and its rules have patterns and ports that some flow can meet: an entry
or a rule with anything else is skipped. Building a registry only drops proxies, so this holds of
every registry that comes from a configuration (`valid_of_mem_build`).
-/

namespace ProxyRouting

/-- The rule names a pattern or a port that is not ruled out. -/
def Rule.Valid : Rule → Prop
  | hostPattern pattern => pattern ≠ []
  | port number => 1 ≤ number.toNat ∧ number.toNat ≤ 65535
  | fallback => True

/-- The most that a configured weight can be. -/
def Proxy.maxWeight : Nat := 2147483647

/-- The weight and the rules of a proxy are such as a configuration can give. -/
structure Proxy.Valid (proxy : Proxy) : Prop where
  /-- The weight is not zero. -/
  weight_pos : 1 ≤ proxy.weight.toNat
  /-- The weight is that of a 32-bit integer with a sign. -/
  weight_le : proxy.weight.toNat ≤ maxWeight
  /-- The rules are valid. -/
  rules : ∀ rule ∈ proxy.rules, rule.Valid

/-- A configured integer has 32 bits. -/
theorem Integer.range_of_read? {text : Bytes} {n : Int} (reads : Integer.read? text = some n) :
    -2147483648 ≤ n ∧ n ≤ 2147483647 := by
  unfold Integer.read? at reads
  split at reads
  · next number _ =>
    split at reads
    · next range =>
      cases reads
      exact range
    · cases reads
  · cases reads

namespace Config

variable {entry : Document} {name url : Bytes} {proxy : Proxy}

theorem range_of_integer? {key : Bytes} {n : Int} (reads : entry.integer? key = some n) :
    -2147483648 ≤ n ∧ n ≤ 2147483647 := by
  unfold Document.integer? at reads
  split at reads
  · exact Integer.range_of_read? reads
  · cases reads

/-! ### Rules -/

theorem valid_of_readRule {node : Document} {rule : Rule} (reads : readRule name node = .ok rule) :
    rule.Valid := by
  unfold readRule at reads
  dsimp only at reads
  split at reads
  · -- A host rule.
    split at reads
    · cases reads
    · next noPattern =>
      cases reads
      exact noPattern
  · split at reads
    · -- A port rule.
      split at reads
      · next number _ =>
        split at reads
        · next range =>
          cases reads
          have fits : number.toNat < UInt16.size := by
            have : UInt16.size = 65536 := rfl
            omega
          show 1 ≤ (UInt16.ofNat number.toNat).toNat ∧ (UInt16.ofNat number.toNat).toNat ≤ 65535
          rw [UInt16.toNat_ofNat_of_lt' fits]
          omega
        · cases reads
      · cases reads
    · split at reads
      · cases reads
        trivial
      · cases reads

/-- A rule in the list is the rule of a node. -/
theorem exists_readRule_of_mem {nodes : List Document} {rule : Rule}
    (mem : rule ∈ (readRules name nodes).1) : ∃ node ∈ nodes, readRule name node = .ok rule := by
  induction nodes with
  | nil => cases mem
  | cons node rest ih =>
    have elsewhere : rule ∈ (readRules name rest).1 →
        ∃ other ∈ node :: rest, readRule name other = .ok rule := fun later =>
      let ⟨other, mem, reads⟩ := ih later
      ⟨other, List.mem_cons_of_mem _ mem, reads⟩
    rw [readRules] at mem
    dsimp only at mem
    split at mem
    · next first reads =>
      rcases List.mem_cons.1 mem with rfl | later
      · exact ⟨node, List.mem_cons_self, reads⟩
      · exact elsewhere later
    · exact elsewhere mem

theorem valid_of_mem_readRules {nodes : List Document} {rule : Rule}
    (mem : rule ∈ (readRules name nodes).1) : rule.Valid :=
  let ⟨_, _, reads⟩ := exists_readRule_of_mem mem
  valid_of_readRule reads

/-! ### Entries -/

/-- The weight of an entry, which is 1 unless there is an integer. -/
def weightOf (entry : Document) : Int := (entry.integer? (ascii "weight")).getD 1

theorem weightOf_le (entry : Document) : weightOf entry ≤ 2147483647 := by
  unfold weightOf
  cases weight : entry.integer? (ascii "weight") with
  | none => decide
  | some n => exact (range_of_integer? weight).2

/-- An entry is skipped exactly if its weight is below 1; else the proxy has this weight. -/
theorem weight_of_readNamed (reads : (readNamed name url entry).proxy = some proxy) :
    1 ≤ weightOf entry ∧ (proxy.weight.toNat : Int) = weightOf entry := by
  have small := weightOf_le entry
  unfold readNamed at reads
  dsimp only at reads
  rw [← weightOf] at reads
  split at reads
  · cases reads
  · next positive =>
    cases reads
    have fits : (weightOf entry).toNat < UInt32.size := by
      have : UInt32.size = 4294967296 := rfl
      omega
    refine ⟨Int.not_lt.1 positive, ?_⟩
    rw [UInt32.toNat_ofNat_of_lt' fits]
    exact Int.toNat_of_nonneg (by omega)

theorem valid_of_readNamed (reads : (readNamed name url entry).proxy = some proxy) :
    proxy.Valid := by
  obtain ⟨positive, weight⟩ := weight_of_readNamed reads
  have small := weightOf_le entry
  refine ⟨by omega, by rw [Proxy.maxWeight]; omega, ?_⟩
  unfold readNamed at reads
  dsimp only at reads
  split at reads
  · cases reads
  · cases reads
    exact fun rule mem => valid_of_mem_readRules mem

/-- Every proxy of a document is that of an entry with a name and a URL. -/
theorem exists_readNamed_of_mem {d : Document} {proxies : List Proxy}
    (reads : (readProxies d).1 = .ok proxies) (mem : proxy ∈ proxies) :
    ∃ entry name url, entry.text? (ascii "name") = some name ∧
      entry.text? (ascii "url") = some url ∧ (readNamed name url entry).proxy = some proxy := by
  obtain ⟨entries, -, -, rfl⟩ := readProxies_eq_ok_iff.1 reads
  obtain ⟨entry, -, read, readsEntry, gives⟩ := mem_proxiesOf.1 mem
  obtain ⟨name, url, hasName, hasUrl, rfl⟩ := readEntry?_eq_some_iff.1 readsEntry
  exact ⟨entry, name, url, hasName, hasUrl, gives⟩

/-- **Every proxy of a document is valid.** -/
theorem valid_of_readProxies {d : Document} {proxies : List Proxy}
    (reads : (readProxies d).1 = .ok proxies) (mem : proxy ∈ proxies) : proxy.Valid := by
  obtain ⟨_, _, _, -, -, gives⟩ := exists_readNamed_of_mem reads mem
  exact valid_of_readNamed gives

end Config

namespace Registry

variable {proxy : Proxy}

theorem mem_of_mem_distinct {seen : List Bytes} {proxies : List Proxy}
    (mem : proxy ∈ distinct seen proxies) : proxy ∈ proxies := by
  induction proxies generalizing seen with
  | nil => cases mem
  | cons first rest ih =>
    rw [distinct] at mem
    split at mem
    · exact List.mem_cons_of_mem _ (ih mem)
    · rcases List.mem_cons.1 mem with rfl | later
      · exact List.mem_cons_self
      · exact List.mem_cons_of_mem _ (ih later)

/-- A registry has no proxies but those that it was built of. -/
theorem mem_of_mem_build {proxies : List Proxy} {source : Bytes}
    (mem : proxy ∈ (build proxies source).1.members) : proxy ∈ proxies :=
  mem_of_mem_distinct (mem_distinct_of_mem_build mem)

/-- **Every proxy of a configured registry is valid.** -/
theorem valid_of_mem_build {d : Document} {proxies : List Proxy} {source : Bytes}
    (reads : (Config.readProxies d).1 = .ok proxies)
    (mem : proxy ∈ (build proxies source).1.members) : proxy.Valid :=
  Config.valid_of_readProxies reads (mem_of_mem_build mem)

end Registry

end ProxyRouting
