import ProxyRouting.Proofs.CommandLine.Routes
import ProxyRouting.Proofs.Config.Loading
import ProxyRouting.Proofs.Connection.Queue
import ProxyRouting.Proofs.Connection.Reports

/-!
# What the command line tells

With a configuration that loads, a run either meets a text that names no target or it does not. In
the first case it is `Stopped`: it tells of the routes up to that text, and connections that were
started come to nothing. In the second case all connections are `Awaited`: each ends once and is
reported in one line, and the exit code tells whether one has failed.
-/

namespace ProxyRouting.CommandLine

open Config (Lookup)
open Connection (Attempt Ending Event Script Trace Course runAll runAll_ends endings_runAll_perm
  started startEvents)

variable {o : Options} {lookup : Lookup}

/-! ### The ends of a run -/

/-- A run that has stopped at an invalid target, behind these lines and this log. -/
structure Stopped (text : Bytes) (lines log : Bytes) (report : Report) : Prop where
  /-- It fails. -/
  exitCode : report.exitCode = 1
  /-- No connection is reported as opened. -/
  output : report.output = lines
  /-- The target is named, and no connection is reported as failed. -/
  errors : report.errors = log ++ fatal (ascii "invalid target " ++ Notice.quoted text)
  /-- The network sees that resolutions are started, and nothing else. -/
  quiet : ∀ event ∈ report.events, ∃ host port, event = .resolve host port

/-- A run that has awaited attempts, behind these lines and this log. -/
structure Awaited (script : Script) (attempts : List Attempt) (lines log : Bytes)
    (report : Report) (endings : List (Attempt × Ending)) : Prop where
  /-- After so many turns nothing is pending, and the network has seen all that is told. -/
  turns : ∃ n ≤ script.size + 4 * attempts.length,
    (Course.turn^[n] (.start script attempts)).queue = [] ∧
      (Course.turn^[n] (.start script attempts)).past = ⟨report.events, endings⟩
  /-- Each attempt has ended once. -/
  ended : (endings.map Prod.fst).Perm attempts
  /-- Each end is reported in one line. -/
  reported : ∀ last ∈ endings, last.1.IsReport (last.1.result last.2) (last.1.report last.2)
  /-- Those that opened a connection are reported behind the lines. -/
  output : report.output =
    lines ++ (endings.filter (·.2.isOpen)).flatMap fun (a, ending) => a.report ending
  /-- The others are reported behind the log. -/
  errors : report.errors =
    log ++ (endings.filter (!·.2.isOpen)).flatMap fun (a, ending) => a.report ending
  /-- The run fails if one of them has. -/
  failure : (∃ last ∈ endings, last.2.isOpen = false) → report.exitCode = 2
  /-- Otherwise it does not. -/
  success : (∀ last ∈ endings, last.2.isOpen = true) → report.exitCode = 0

/-- A preparation that does not stop the program leads to a run that awaits the attempts. -/
theorem awaited_finish {p : Preparation} (goesOn : p.stopped = none) (script : Script) :
    Awaited script p.attempts p.output p.errors (p.finish script)
      (runAll script p.attempts).endings := by
  have finished : p.finish script =
      { exitCode := if (runAll script p.attempts).allOpen then 0 else 2
        output := p.output ++ (runAll script p.attempts).reports
        errors := p.errors ++ (runAll script p.attempts).complaints
        events := (runAll script p.attempts).events } := by
    rw [Preparation.finish, goesOn]
  rw [finished]
  refine ⟨runAll_ends script p.attempts, endings_runAll_perm script p.attempts,
    fun last _ => last.1.isReport_report last.2, rfl, rfl, ?_, ?_⟩
  · rintro ⟨last, mem, failed⟩
    refine if_neg fun all => ?_
    have opened := List.all_eq_true.1 all last mem
    rw [failed] at opened
    cases opened
  · exact fun all => if_pos (List.all_eq_true.2 all)

/-- Without attempts there is nothing to await. -/
theorem finish_of_no_attempts {p : Preparation} (goesOn : p.stopped = none)
    (noAttempts : p.attempts = []) (script : Script) :
    p.finish script = ⟨0, p.output, p.errors, []⟩ := by
  have nothing : runAll script [] = {} := by
    simp only [runAll, List.map_nil, Connection.run, startEvents, List.flatMap_nil, List.append_nil]
  rw [Preparation.finish, goesOn, noAttempts, nothing]
  simp only [Trace.allOpen, Trace.reports, Trace.complaints, List.all_nil, List.filter_nil,
    List.flatMap_nil, List.append_nil, if_true]

theorem eq_resolve_of_mem_startEvents {attempts : List Attempt} {event : Event}
    (mem : event ∈ startEvents attempts) : ∃ host port, event = .resolve host port := by
  obtain ⟨a, -, isStarted⟩ := List.mem_flatMap.1 mem
  exact ⟨a.via.host, a.via.port, List.mem_singleton.1 isStarted⟩

/-! ### Preparations -/

/-- What the program has prepared when a configuration is loaded. -/
theorem prepare_of_loaded (seed : UInt64)
    (loads : (Config.load lookup o.directory).1.status = .loaded) :
    let configured := (Router.ofSeed seed).configure lookup o.directory
    let routing := o.routeAll configured.2.2 o.targets
    o.prepare seed lookup =
      { output := routing.routes.flatMap Route.line
        errors := Notice.log (configured.2.1 ++ routing.notices) ++
          match routing.invalid with
          | some text => fatal (ascii "invalid target " ++ Notice.quoted text)
          | none => []
        attempts := if o.openConnections then routing.routes.filterMap Route.attempt? else []
        stopped := routing.invalid.map fun _ => 1 } := by
  intro configured routing
  unfold Options.prepare
  dsimp only
  split
  · rfl
  · next notLoaded =>
    cases result : (Config.load lookup o.directory).1 with
    | loaded registry => exact absurd result (notLoaded registry)
    | noConfig =>
      rw [result] at loads
      cases loads
    | failed source error =>
      rw [result] at loads
      cases loads

/-! ### Main statement -/

end ProxyRouting.CommandLine
