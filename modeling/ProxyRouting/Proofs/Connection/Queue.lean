import Mathlib.Data.List.Perm.Basic
import Mathlib.Logic.Function.Iterate
import ProxyRouting.Connection.Trace

/-!
# Attempts side by side

Attempts that share a network take turns. In one turn the operation that was started first comes to
its end, and the one that follows it is started behind all others.

A turn leaves less to do, so after some turns nothing is pending (`exists_turns`). It neither loses
an attempt nor adds one (`Turns.attempts_perm`). So all attempts end once, whatever the network does
to any of them (`runAll_ends`, `endings_runAll_perm`).
-/

namespace ProxyRouting.Connection

/-- How far attempts that run side by side are. -/
structure Course where
  /-- What the network will do. -/
  script : Script
  /-- The pending operations, in the order in which they were started. -/
  queue : List (Attempt × Pending)
  /-- What was seen so far, and the attempts that have ended. -/
  past : Trace
  deriving DecidableEq, Repr

namespace Course

variable {c c' : Course}

/-- Attempts that have just been started. -/
def start (script : Script) (attempts : List Attempt) : Course where
  script := script
  queue := attempts.map fun a => (a, .resolve)
  past := { events := startEvents attempts }

/-- The first operation comes to its end. What follows it goes to the end of the queue. -/
def turn (c : Course) : Course :=
  match c.queue with
  | [] => c
  | (a, pending) :: rest =>
    match perform c.script a pending with
    | ⟨.waiting next, events, script⟩ =>
      { script
        queue := rest ++ [(a, next)]
        past := { c.past with events := c.past.events ++ (events ++ started a next) } }
    | ⟨.finished ending, events, script⟩ =>
      { script
        queue := rest
        past := ⟨c.past.events ++ events, c.past.endings ++ [(a, ending)]⟩ }

/-- What one turn does. -/
inductive Turns : Course → Course → Prop
  /-- Nothing is pending. -/
  | idle (script : Script) (past : Trace) : Turns ⟨script, [], past⟩ ⟨script, [], past⟩
  /-- The attempt goes on with another operation. -/
  | goesOn {script script' : Script} {a : Attempt} {pending next : Pending} {events : List Event}
      (rest : List (Attempt × Pending)) (past : Trace) :
      perform script a pending = ⟨.waiting next, events, script'⟩ →
      Turns ⟨script, (a, pending) :: rest, past⟩
        ⟨script', rest ++ [(a, next)],
          { past with events := past.events ++ (events ++ started a next) }⟩
  /-- The attempt ends. -/
  | ends {script script' : Script} {a : Attempt} {pending : Pending} {ending : Ending}
      {events : List Event} (rest : List (Attempt × Pending)) (past : Trace) :
      perform script a pending = ⟨.finished ending, events, script'⟩ →
      Turns ⟨script, (a, pending) :: rest, past⟩
        ⟨script', rest, ⟨past.events ++ events, past.endings ++ [(a, ending)]⟩⟩

theorem turns_turn (c : Course) : Turns c c.turn := by
  obtain ⟨script, queue, past⟩ := c
  cases queue with
  | nil => exact .idle script past
  | cons first rest =>
    obtain ⟨a, pending⟩ := first
    rcases performed : perform script a pending with ⟨next | ending, events, script'⟩
    · simpa only [turn, performed] using Turns.goesOn rest past performed
    · simpa only [turn, performed] using Turns.ends rest past performed

/-! ### What stays in a turn -/

/-- What was seen so far, and what will be. -/
def whole (c : Course) : Trace :=
  ⟨c.past.events ++ (run c.script c.queue).events, c.past.endings ++ (run c.script c.queue).endings⟩

/-- A turn is the first operation of the run. -/
theorem Turns.whole_eq (turns : Turns c c') : c'.whole = c.whole := by
  cases turns with
  | idle script past => rfl
  | goesOn rest past performed =>
    simp only [whole, run_cons_of_waiting rest performed, List.append_assoc]
  | ends rest past performed =>
    simp only [whole, run_cons_of_finished rest performed, List.append_assoc, List.singleton_append]

/-- The attempts that have ended, and those that have not. -/
def attempts (c : Course) : List Attempt :=
  c.past.endings.map Prod.fst ++ c.queue.map Prod.fst

/-- A turn neither loses an attempt nor adds one. -/
theorem Turns.attempts_perm (turns : Turns c c') : c'.attempts.Perm c.attempts := by
  cases turns with
  | idle script past => exact .refl _
  | @goesOn _ _ a _ _ _ rest past _ =>
    simp only [attempts, List.map_append, List.map_cons, List.map_nil]
    exact (List.perm_append_singleton a (rest.map Prod.fst)).append_left _
  | ends rest past _ =>
    simp only [attempts, List.map_append, List.map_cons, List.map_nil, List.append_assoc,
      List.singleton_append]
    exact .refl _

/-! ### The end -/

/-- A bound on the turns that are left. -/
def remaining (c : Course) : Nat := c.script.size + Connection.remaining c.queue

theorem Turns.remaining_lt (turns : Turns c c') (busy : c.queue ≠ []) :
    c'.remaining < c.remaining := by
  cases turns with
  | idle script past => exact absurd rfl busy
  | @goesOn script script' a pending next _ rest past performed =>
    have less := remaining_perform script a pending
    simp only [performed, Progress.remaining] at less
    simp only [remaining, remaining_append, Connection.remaining]
    omega
  | @ends script script' a pending _ _ rest past performed =>
    have less := remaining_perform script a pending
    simp only [performed, Progress.remaining] at less
    simp only [remaining, Connection.remaining]
    omega

/-- After some turns nothing is pending. The induction is on the work that remains. -/
theorem exists_turns (c : Course) : ∃ n ≤ c.remaining, (turn^[n] c).queue = [] := by
  by_cases busy : c.queue = []
  · exact ⟨0, Nat.zero_le _, busy⟩
  · have less := c.turns_turn.remaining_lt busy
    obtain ⟨n, few, done⟩ := exists_turns c.turn
    exact ⟨n + 1, Nat.succ_le_of_lt (Nat.lt_of_le_of_lt few less), done⟩
termination_by c.remaining

theorem whole_iterate (n : Nat) (c : Course) : (turn^[n] c).whole = c.whole := by
  induction n generalizing c with
  | zero => rfl
  | succ n ih => exact (ih c.turn).trans c.turns_turn.whole_eq

theorem attempts_iterate (n : Nat) (c : Course) : (turn^[n] c).attempts.Perm c.attempts := by
  induction n generalizing c with
  | zero => exact .refl _
  | succ n ih => exact (ih c.turn).trans c.turns_turn.attempts_perm

/-- When nothing is pending, all has been seen. -/
theorem whole_of_nothing_pending (done : c.queue = []) : c.whole = c.past := by
  simp only [whole, done, run, List.append_nil]

theorem remaining_start (script : Script) (attempts : List Attempt) :
    (start script attempts).remaining = script.size + 4 * attempts.length := by
  have each : Connection.remaining (start script attempts).queue = 4 * attempts.length := by
    unfold start
    induction attempts with
    | nil => rfl
    | cons a rest ih =>
      rw [List.map_cons, Connection.remaining, ih, Pending.remaining, List.length_cons]
      omega
  rw [remaining, each]
  rfl

theorem attempts_start (script : Script) (attempts : List Attempt) :
    (start script attempts).attempts = attempts := by
  simp [start, Course.attempts, Function.comp_def]

end Course

open Course

variable (script : Script) (attempts : List Attempt)

/-- **The run of some attempts ends**: after so many turns nothing is pending, and what was seen by
then is what the run is. -/
theorem runAll_ends : ∃ n ≤ script.size + 4 * attempts.length,
    (turn^[n] (start script attempts)).queue = [] ∧
      (turn^[n] (start script attempts)).past = runAll script attempts := by
  obtain ⟨n, few, done⟩ := (start script attempts).exists_turns
  rw [remaining_start] at few
  refine ⟨n, few, done, ?_⟩
  rw [← whole_of_nothing_pending done, whole_iterate]
  rfl

/-- **Each of some attempts ends once**, in whatever order. -/
theorem endings_runAll_perm : ((runAll script attempts).endings.map Prod.fst).Perm attempts := by
  obtain ⟨n, -, done, past⟩ := runAll_ends script attempts
  have kept := attempts_iterate n (start script attempts)
  rw [attempts_start, Course.attempts, done, past, List.map_nil, List.append_nil] at kept
  exact kept

end ProxyRouting.Connection
