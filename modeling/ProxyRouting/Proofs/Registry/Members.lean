import Mathlib.Data.List.Infix
import ProxyRouting.Proofs.Registry.Build

/-!
# What becomes of every proxy

A configured proxy is a candidate, or the fallback, or it is dropped with a notice: because an
earlier proxy has its name, or because it is a fallback and a later one takes its place. A name
stays taken when its proxy is dropped, so a duplicate of a replaced fallback is dropped as well, and
then nothing is found under that name. Adding a proxy makes the registry larger by one, or it
makes one notice (`size_add`), so none is lost without one (`size_addAll`).
-/

namespace ProxyRouting

/-- Whether the notice tells that a proxy is dropped. -/
def Notice.dropsProxy : Notice → Bool
  | .duplicateName _ => true
  | .fallbackReplaced _ _ => true
  | _ => false

namespace Registry

variable {registry : Registry} {proxy : Proxy} {proxies : List Proxy} {source : Bytes}

/-! ### The first proxy with each name -/

/-- The proxies whose name none of those before them has; each is looked at with all of these. -/
def firstNamed (proxies : List Proxy) : List Proxy :=
  ((proxies.zip proxies.inits).filter fun placed =>
    placed.2.all (·.name ≠ placed.1.name)).map (·.1)

/-- Names that were seen beforehand count like those of proxies before all others. -/
theorem distinct_eq_map_filter (seen : List Bytes) (proxies : List Proxy) :
    distinct seen proxies =
      ((proxies.zip proxies.inits).filter fun placed =>
        placed.1.name ∉ seen && placed.2.all (·.name ≠ placed.1.name)).map (·.1) := by
  induction proxies generalizing seen with
  | nil => rfl
  | cons first rest ih =>
    have later : (rest.zip (rest.inits.map (first :: ·))) =
        (rest.zip rest.inits).map (Prod.map id (first :: ·)) := List.zip_map_right ..
    rw [distinct, List.inits_cons, List.zip_cons_cons, later, List.filter_cons, List.filter_map]
    simp only [List.all_nil, Bool.and_true, decide_eq_true_eq]
    split_ifs with known
    · rw [ih, List.map_map]
      refine congrArg (List.map _) (List.filter_congr fun placed _ => ?_)
      simp only [Function.comp, Prod.map, id, List.all_cons]
      -- The first name was seen, so it only rules out what is ruled out without it.
      by_cases seenToo : placed.1.name ∈ seen
      · simp [seenToo]
      · have differs : first.name ≠ placed.1.name := fun same => seenToo (same ▸ known)
        simp [seenToo, differs]
    · rw [ih, List.map_cons, List.map_map]
      refine congrArg (first :: List.map _ ·) (List.filter_congr fun placed _ => ?_)
      simp only [Function.comp, Prod.map, id, List.all_cons, List.mem_cons, not_or,
        Bool.decide_and, Bool.and_assoc, ne_comm (a := first.name), ne_eq]
      rw [Bool.and_left_comm]

/-- The walk keeps the first proxy with each name. -/
theorem distinct_eq_firstNamed (proxies : List Proxy) :
    distinct [] proxies = firstNamed proxies := by
  simp only [distinct_eq_map_filter, firstNamed, List.not_mem_nil, not_false_eq_true, decide_true,
    Bool.true_and]

/-! ### Who is found -/

theorem WellFormed.find?_eq_some_iff (wellFormed : registry.WellFormed) {name : Bytes} :
    registry.find? name = some proxy ↔ proxy ∈ registry.members ∧ proxy.name = name := by
  refine ⟨mem_of_find?, ?_⟩
  rintro ⟨mem, rfl⟩
  exact wellFormed.find?_name mem

theorem find?_eq_none_iff {name : Bytes} :
    registry.find? name = none ↔ name ∉ registry.members.map (·.name) := by
  simp only [find?, List.find?_eq_none, decide_eq_true_eq, List.mem_map, not_exists, not_and]

/-- A fallback that was replaced is not found: its name belongs to no other proxy. -/
theorem find?_of_replaced (first : proxy ∈ distinct [] proxies)
    (isFallback : proxy.isFallback = true)
    (replaced : (build proxies source).1.fallback ≠ some proxy) :
    (build proxies source).1.find? proxy.name = none := by
  have wellFormed := wellFormed_build proxies source
  refine Option.eq_none_iff_forall_ne_some.2 fun other found => ?_
  obtain ⟨mem, same⟩ := mem_of_find? found
  -- Who is found instead has the same name, so it is the same proxy, and a fallback.
  obtain rfl := List.inj_on_of_nodup_map (nodup_distinct [] proxies)
    (mem_distinct_of_mem_build mem) first same
  rcases mem_members.1 mem with candidate | fallback
  · rw [wellFormed.candidates _ candidate] at isFallback
    cases isFallback
  · exact replaced fallback

/-! ### None is lost silently -/

theorem size_add (registry : Registry) (proxy : Proxy) :
    (registry.add proxy).1.size + (registry.add proxy).2.countP Notice.dropsProxy =
      registry.size + 1 := by
  unfold add
  split
  · cases earlier : registry.fallback <;> simp [size, members, earlier, Notice.dropsProxy]
  · simp only [size, members, List.length_append, List.length_singleton, List.countP_nil]
    omega

theorem size_addAll (registry : Registry) (seen : List Bytes) (proxies : List Proxy) :
    (registry.addAll seen proxies).1.size +
      (registry.addAll seen proxies).2.countP Notice.dropsProxy =
        registry.size + proxies.length := by
  induction proxies generalizing registry seen with
  | nil => rfl
  | cons first rest ih =>
    rw [addAll, List.length_cons]
    split_ifs with known
    · have later := ih registry seen
      simp only [List.countP_cons, Notice.dropsProxy, if_true]
      omega
    · have now := size_add registry first
      have later := ih (registry.add first).1 (first.name :: seen)
      simp only [List.countP_append]
      omega

/-! ### Main statement -/

/-- **A registry accounts for every proxy that it was built of.** Of the proxies that are the first
with their names the candidates are those that are no fallbacks, and the fallback is the last of the
others. What is found under a name is the one proxy of the registry with this name, so a fallback
that was replaced is not found. The proxies that are not in the registry are as many as the
notices about them. -/
theorem build_accounts_for_all {notices : List Notice}
    (built : build proxies source = (registry, notices)) :
    registry.candidates = (firstNamed proxies).filter (!·.isFallback) ∧
    registry.fallback = ((firstNamed proxies).filter (·.isFallback)).getLast? ∧
    (registry.members.map (·.name)).Nodup ∧
    (∀ name proxy,
      registry.find? name = some proxy ↔ proxy ∈ registry.members ∧ proxy.name = name) ∧
    (∀ name, registry.find? name = none ↔ name ∉ registry.members.map (·.name)) ∧
    (∀ proxy ∈ firstNamed proxies, proxy.isFallback → registry.fallback ≠ some proxy →
      registry.find? proxy.name = none) ∧
    proxies.length = registry.size + notices.countP Notice.dropsProxy := by
  obtain ⟨isRegistry, areNotices⟩ := Prod.ext_iff.1 built
  subst isRegistry areNotices
  have wellFormed := wellFormed_build proxies source
  have parts := build_eq proxies source
  rw [distinct_eq_firstNamed] at parts
  refine ⟨by rw [parts], by rw [parts], wellFormed.names_nodup,
    fun name proxy => wellFormed.find?_eq_some_iff, fun name => find?_eq_none_iff,
    fun proxy first => find?_of_replaced (distinct_eq_firstNamed proxies ▸ first), ?_⟩
  have all := size_addAll { source } [] proxies
  rw [show ({ source } : Registry).size = 0 from rfl, Nat.zero_add] at all
  exact all.symm

/-- The first of two fallbacks is replaced, and its name stays taken. -/
theorem build_accounts_for_all_of_replaced :
    let first : Proxy := { name := ascii "a", rules := [.fallback] }
    let candidate : Proxy := { name := ascii "b", rules := [.port 443] }
    let second : Proxy := { name := ascii "c", rules := [.port 80, .fallback] }
    let again : Proxy := { name := ascii "a", rules := [.port 80] }
    let registry : Registry := ⟨[], [candidate], some second⟩
    build [first, candidate, second, again] [] = (registry,
      [.fallbackReplaced (ascii "a") (ascii "c"), .duplicateName (ascii "a")]) ∧
    registry.candidates = [candidate] ∧ registry.find? (ascii "a") = none := by
  intro first candidate second again registry
  have built : build [first, candidate, second, again] [] = (registry,
      [.fallbackReplaced (ascii "a") (ascii "c"), .duplicateName (ascii "a")]) := by decide
  obtain ⟨candidates, -, -, -, -, replaced, -⟩ := build_accounts_for_all built
  exact ⟨built, candidates, replaced first (by decide) rfl (by decide)⟩

end Registry

end ProxyRouting
