import Mathlib.Data.List.Forall2
import ProxyRouting.CommandLine

/-!
# The routes of targets

The texts of targets are read one after another, and the router decides about each target as soon as
it is read. If all texts name targets, there is one route for each, and they come in order
(`routeAll_of_reads`). Otherwise there are those of the targets before the first text that names
none (`routeAll_of_invalid`). One of the two is the case (`reads_or_invalid`).
-/

namespace ProxyRouting.CommandLine.Options

variable {o : Options} {r : Router} {texts : List Bytes} {targets : List HostPort}

/-- The texts name the targets. -/
def Reads (o : Options) : List Bytes → List HostPort → Prop :=
  List.Forall₂ fun text target => HostPort.parse? text o.fallbackPort = some target

/-- What the router answers about targets that it decides on one after another: their routes, each
with the notices about it. -/
def answers (o : Options) : Router → List HostPort → List (Route × List Notice)
  | _, [] => []
  | r, target :: rest =>
    let (decision, notices, r) := o.decide r target
    (⟨target, decision⟩, notices) :: o.answers r rest

/-- The router after it has decided on targets. -/
def after (o : Options) (r : Router) (targets : List HostPort) : Router :=
  targets.foldl (fun r target => (o.decide r target).2.2) r

/-- There is one answer for each target, in order. -/
theorem target_of_answers (o : Options) (r : Router) (targets : List HostPort) :
    (o.answers r targets).map (·.1.target) = targets := by
  induction targets generalizing r with
  | nil => rfl
  | cons target rest ih => rw [answers, List.map_cons, ih]

/-- The routes of the first targets come first, and the router then goes on to the others. -/
theorem routeAll_append (reads : o.Reads texts targets) (others : List Bytes) :
    let behind := o.routeAll (o.after r targets) others
    o.routeAll r (texts ++ others) =
      { routes := (o.answers r targets).map Prod.fst ++ behind.routes
        notices := (o.answers r targets).flatMap Prod.snd ++ behind.notices
        invalid := behind.invalid } := by
  induction reads generalizing r with
  | nil => rfl
  | @cons text target texts targets read _ ih =>
    have later := ih (r := (o.decide r target).2.2)
    simp only [List.cons_append, routeAll, read, later]
    simp only [answers, after, List.foldl_cons, List.map_cons, List.flatMap_cons, List.cons_append,
      List.append_assoc]

theorem routeAll_of_reads (reads : o.Reads texts targets) :
    o.routeAll r texts =
      { routes := (o.answers r targets).map Prod.fst
        notices := (o.answers r targets).flatMap Prod.snd } := by
  have whole := routeAll_append (r := r) reads []
  simpa only [List.append_nil, routeAll] using whole

theorem routeAll_of_invalid (reads : o.Reads texts targets) {text : Bytes}
    (invalid : HostPort.parse? text o.fallbackPort = none) (others : List Bytes) :
    o.routeAll r (texts ++ text :: others) =
      { routes := (o.answers r targets).map Prod.fst
        notices := (o.answers r targets).flatMap Prod.snd
        invalid := some text } := by
  have whole := routeAll_append (r := r) reads (text :: others)
  simpa only [List.append_nil, routeAll, invalid] using whole

/-- Either all texts name targets, or one of them is the first that does not. -/
theorem reads_or_invalid (o : Options) (texts : List Bytes) :
    (∃ targets, o.Reads texts targets) ∨
      ∃ before text others targets, texts = before ++ text :: others ∧ o.Reads before targets ∧
        HostPort.parse? text o.fallbackPort = none := by
  induction texts with
  | nil => exact Or.inl ⟨[], .nil⟩
  | cons text rest ih =>
    cases read : HostPort.parse? text o.fallbackPort with
    | none => exact Or.inr ⟨[], text, rest, [], rfl, .nil, read⟩
    | some target =>
      rcases ih with ⟨targets, reads⟩ | ⟨before, invalid, others, targets, rfl, reads, fails⟩
      · exact Or.inl ⟨target :: targets, .cons read reads⟩
      · exact Or.inr ⟨text :: before, invalid, others, target :: targets, rfl,
          .cons read reads, fails⟩

/-- If the texts are read, each of them names a target. -/
theorem Reads.exists_target {text : Bytes} (reads : o.Reads texts targets) (mem : text ∈ texts) :
    ∃ target, HostPort.parse? text o.fallbackPort = some target := by
  induction reads with
  | nil => cases mem
  | cons read _ ih =>
    rcases List.mem_cons.1 mem with rfl | later
    · exact ⟨_, read⟩
    · exact ih later

end ProxyRouting.CommandLine.Options
