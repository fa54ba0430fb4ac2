import ProxyRouting.Proofs.CommandLine.Accounting
import ProxyRouting.Proofs.Router.Decisions
import ProxyRouting.Proofs.Selector.Transparency

/-!
# Targets beside each other

All targets of a command line are those of one client, and one router decides on them one after
another and remembers each choice. Without tunnels nothing of this shows. The router remembers a
choice by host and port, and a target has both, so what it remembers for a target was chosen for
that very target. If one candidate takes the target at most, it is what would be chosen anew
(`answers_eq_map`).

So each target gets the line that the program prints for it alone, whatever stands beside it
(`lines_as_if_alone`).
-/

namespace ProxyRouting.CommandLine

open Config (Lookup)
open Connection (Script)

variable {o : Options} {lookup : Lookup} {registry : Registry} {r : Router}

/-! ### A target given alone -/

/-- An argument that is a target wherever it stands for itself. -/
def IsTarget (argument : Bytes) : Prop :=
  ∀ o : Options, o.readSingle argument = some { o with targets := o.targets ++ [argument] }

namespace Options

/-- The arguments for one target, with the directory and the client of the options. -/
def alone (o : Options) (text : Bytes) : List Bytes :=
  [ascii "-d", o.directory, ascii "-c", o.client, text]

/-- An argument that stands for itself is an option or a target. -/
theorem readSingle_cases {o' : Options} {argument : Bytes}
    (read : o.readSingle argument = some o') :
    o'.targets = o.targets ∨ o'.targets = o.targets ++ [argument] ∧ IsTarget argument := by
  unfold readSingle at read
  split_ifs at read with tunnel opens help
  · cases read
    exact Or.inl rfl
  · cases read
    exact Or.inl rfl
  · cases read
    refine Or.inr ⟨rfl, fun _ => ?_⟩
    rw [readSingle, if_neg tunnel, if_neg opens, if_neg help]

/-- What is read as a target stands for itself. -/
theorem isTarget_of_readSingle {o' : Options} {argument text : Bytes}
    (read : o.readSingle argument = some o') (mem : text ∈ o'.targets) :
    text ∈ o.targets ∨ IsTarget text := by
  rcases readSingle_cases read with same | ⟨more, isTarget⟩
  · exact Or.inl (same ▸ mem)
  · rw [more, List.mem_append, List.mem_singleton] at mem
    rcases mem with earlier | rfl
    · exact Or.inl earlier
    · exact Or.inr isTarget

theorem isTarget_of_read {o o' : Options} {arguments : List Bytes} {text : Bytes}
    (read : o.read arguments = some o') (mem : text ∈ o'.targets) :
    text ∈ o.targets ∨ IsTarget text := by
  fun_induction Options.read o arguments with
  | case1 o =>
    cases read
    exact Or.inl mem
  | case2 o argument => exact isTarget_of_readSingle read mem
  | case3 o argument next rest _ ih => exact ih read
  | case4 o argument next rest _ _ ih => exact ih read
  | case5 o argument next rest _ _ o₁ single ih =>
    rcases ih read with earlier | isTarget
    · exact isTarget_of_readSingle single earlier
    · exact Or.inr isTarget
  | case6 o argument next rest _ _ none => cases read

/-- A target that was given among others can be given alone. -/
theorem ofArguments_alone {arguments : List Bytes} {text : Bytes}
    (asked : Invocation.ofArguments arguments = .route o) (mem : text ∈ o.targets)
    (exchanges : o.tunnel = false) (opensNone : o.openConnections = false) :
    Invocation.ofArguments (o.alone text) = .route { o with targets := [text] } := by
  unfold Invocation.ofArguments at asked
  split at asked
  · cases asked
  · next o' read =>
    split_ifs at asked with incomplete
    cases asked
    have isTarget : IsTarget text := by
      rcases isTarget_of_read read mem with ⟨⟨⟩⟩ | isTarget
      exact isTarget
    have directory : o.directory ≠ [] := fun missing => incomplete (Or.inl missing)
    obtain ⟨directory', client, tunnel, openConnections, targets⟩ := o
    obtain rfl : tunnel = false := exchanges
    obtain rfl : openConnections = false := opensNone
    have readAlone : Options.read {} (alone ⟨directory', client, false, false, targets⟩ text) =
        some ⟨directory', client, false, false, [text]⟩ := by
      have isDirectory : isDirectoryOption (ascii "-d") = true := by decide
      have notDirectory : isDirectoryOption (ascii "-c") = false := by decide
      have isClient : isClientOption (ascii "-c") = true := by decide
      simp only [alone, Options.read, isDirectory, notDirectory, isClient, if_true,
        Bool.false_eq_true, if_false, isTarget _, List.nil_append]
    simp only [Invocation.ofArguments, readAlone]
    exact if_neg (by simpa using directory)

/-! ### What is remembered of other targets -/

/-- The route of a target that one candidate takes at most. -/
def routeOn (o : Options) (registry : Registry) (target : HostPort) : Route where
  target := target
  decision :=
    ((registry.matching (o.flow target)).head?.or registry.fallback).bind Proxy.decision?

/-- The registry is in force, and all that is remembered for exchanges was chosen for targets, which
have a host and a port. -/
def Remembers (registry : Registry) (r : Router) : Prop :=
  r.selector.Justified registry fun earlier => earlier.host ≠ none

theorem remembers_configure (loads : (Config.load lookup o.directory).1 = .loaded registry)
    (r : Router) : Remembers registry (r.configure lookup o.directory).2.2 := by
  rw [Router.configure_router, loads]
  exact Selector.justified_reload r.selector registry _

theorem decide_eq_route (exchanges : o.tunnel = false) (r : Router) (target : HostPort) :
    o.decide r target = r.route (o.flow target) .exchange := by
  rw [decide, exchanges]
  rfl

/-- A target that one candidate takes at most has one route, and it is all the same to the router
which targets it has decided on before. -/
theorem decide_of_few (exchanges : o.tunnel = false) (remembers : Remembers registry r)
    {target : HostPort} (few : (registry.matching (o.flow target)).length ≤ 1) :
    (o.decide r target).1 = (o.routeOn registry target).decision ∧
      Remembers registry (o.decide r target).2.2 := by
  have hasHost : (o.flow target).host ≠ none := Option.some_ne_none target.host
  -- Flows of one identity that both have a host show the same host and port to the rules.
  have shown : ∀ earlier : Flow, earlier.host ≠ none →
      earlier.identity .exchange = (o.flow target).identity .exchange →
      (o.flow target).ShowsIn earlier :=
    fun earlier hasHost' same => Flow.showsIn_of_identity_eq same.symm fun _ => hasHost'
  have selected := remembers.select_eq_choose few shown r.selector.generator
  rw [Registry.choose_of_few few] at selected
  rw [decide_eq_route exchanges, Router.route_eq, selected]
  exact ⟨rfl, remembers.select fun _ => hasHost⟩

/-- **Each target gets its own route**, whatever the router has decided on before. The induction is
on the targets, and what the router remembers is justified before each. -/
theorem answers_eq_map (exchanges : o.tunnel = false) (remembers : Remembers registry r)
    {targets : List HostPort}
    (few : ∀ target ∈ targets, (registry.matching (o.flow target)).length ≤ 1) :
    (o.answers r targets).map Prod.fst = targets.map (o.routeOn registry) := by
  induction targets generalizing r with
  | nil => rfl
  | cons target rest ih =>
    obtain ⟨decided, remembers'⟩ :=
      decide_of_few exchanges remembers (few target List.mem_cons_self)
    have later := ih remembers' fun other mem => few other (List.mem_cons_of_mem _ mem)
    rw [answers, List.map_cons, List.map_cons, later]
    exact congrArg (fun decision => (⟨target, decision⟩ : Route) :: _) decided

/-! ### The lines of a run -/

/-- The lines about the routes of the targets, one for each. -/
def lines (o : Options) (seed : UInt64) (lookup : Lookup) : List Bytes :=
  (o.routeAll ((Router.ofSeed seed).configure lookup o.directory).2.2 o.targets).routes.map
    Route.line

/-- The line of a target that one candidate takes at most, and nothing if the text names no
target. -/
def lineOn (o : Options) (registry : Registry) (text : Bytes) : Bytes :=
  ((HostPort.parse? text o.fallbackPort).map (o.routeOn registry)).elim [] Route.line

/-- The text names a target that one candidate takes at most. -/
def NamesSure (o : Options) (registry : Registry) (text : Bytes) : Prop :=
  ∃ target, HostPort.parse? text o.fallbackPort = some target ∧
    (registry.matching (o.flow target)).length ≤ 1

/-- Texts that all name such targets are read, and their lines are those of the routes. -/
theorem exists_reads {texts : List Bytes} (sure : ∀ text ∈ texts, o.NamesSure registry text) :
    ∃ targets, o.Reads texts targets ∧
      (∀ target ∈ targets, (registry.matching (o.flow target)).length ≤ 1) ∧
      (targets.map (o.routeOn registry)).map Route.line = texts.map (o.lineOn registry) := by
  induction texts with
  | nil => exact ⟨[], .nil, fun _ mem => absurd mem List.not_mem_nil, rfl⟩
  | cons text rest ih =>
    obtain ⟨target, read, few⟩ := sure text List.mem_cons_self
    obtain ⟨targets, reads, fewOthers, same⟩ :=
      ih fun other mem => sure other (List.mem_cons_of_mem _ mem)
    refine ⟨target :: targets, .cons read reads, ?_, ?_⟩
    · rintro other mem
      rcases List.mem_cons.1 mem with rfl | later
      · exact few
      · exact fewOthers other later
    · rw [List.map_cons, List.map_cons, List.map_cons, same, lineOn, read]
      rfl

end Options

open Options

/-- A run over such targets tells of the route of each, in order, and of nothing else. -/
theorem output_of_sure {arguments : List Bytes}
    (asked : Invocation.ofArguments arguments = .route o) (exchanges : o.tunnel = false)
    (opensNone : o.openConnections = false)
    (loads : (Config.load lookup o.directory).1 = .loaded registry)
    (sure : ∀ text ∈ o.targets, o.NamesSure registry text) (seed : UInt64) (script : Script) :
    o.lines seed lookup = o.targets.map (o.lineOn registry) ∧
      (run arguments seed lookup script).output = (o.targets.map (o.lineOn registry)).flatten := by
  obtain ⟨targets, reads, few, same⟩ := exists_reads sure
  have remembers := remembers_configure loads (Router.ofSeed seed)
  have routes := answers_eq_map exchanges remembers few
  have lines : o.lines seed lookup = o.targets.map (o.lineOn registry) := by
    rw [Options.lines, routeAll_of_reads reads, routes, same]
  have status : (Config.load lookup o.directory).1.status = .loaded := by rw [loads]; rfl
  have prepared := prepare_of_loaded seed status
  simp only [routeAll_of_reads reads, if_neg (Bool.eq_false_iff.1 opensNone)] at prepared
  refine ⟨lines, ?_⟩
  rw [run, asked, Invocation.prepare, prepared, finish_of_no_attempts rfl rfl, ← lines,
    Options.lines, routeAll_of_reads reads, List.flatMap_def]

/-! ### Main statement -/

/-- **A target gets the line that it gets alone.** No tunnels are asked for and no connections are
opened, the configuration loads, and each target is valid and is taken by one candidate at most.
Then each target can be given alone with the same directory and client, and the lines of the run are
those of the runs with one target each, in order. Other arguments that ask for some of these
targets, in any order and any number of times, lead to the lines of those targets. All this holds
whatever the seeds of the runs are. -/
theorem lines_as_if_alone {arguments : List Bytes}
    (asked : Invocation.ofArguments arguments = .route o) (exchanges : o.tunnel = false)
    (opensNone : o.openConnections = false)
    (loads : (Config.load lookup o.directory).1 = .loaded registry)
    (sure : ∀ text ∈ o.targets, ∃ target, HostPort.parse? text o.fallbackPort = some target ∧
      (registry.matching (o.flow target)).length ≤ 1) (seed : UInt64) (script : Script) :
    let line (text : Bytes) := (run (o.alone text) seed lookup script).output
    (∀ text ∈ o.targets,
      Invocation.ofArguments (o.alone text) = .route { o with targets := [text] }) ∧
    (∀ seed script, o.lines seed lookup = o.targets.map line ∧
      (run arguments seed lookup script).output = (o.targets.map line).flatten) ∧
    ∀ others arguments', (∀ text ∈ others, text ∈ o.targets) →
      Invocation.ofArguments arguments' = .route { o with targets := others } →
      ∀ seed script, (run arguments' seed lookup script).output = (others.map line).flatten := by
  intro line
  have alone (text : Bytes) (mem : text ∈ o.targets) :=
    ofArguments_alone asked mem exchanges opensNone
  have one : ∀ text ∈ o.targets, line text = o.lineOn registry text := by
    intro text mem
    have sureOne : ∀ other ∈ [text], o.NamesSure registry other := by
      intro other isText
      rw [List.mem_singleton.1 isText]
      exact sure text mem
    have output := (output_of_sure (alone text mem) exchanges opensNone loads sureOne seed script).2
    exact output.trans (List.append_nil _)
  refine ⟨alone, fun seed script => ?_, fun others arguments' among asked' seed script => ?_⟩
  · rw [List.map_congr_left one]
    exact output_of_sure asked exchanges opensNone loads sure seed script
  · rw [List.map_congr_left fun text mem => one text (among text mem)]
    exact (output_of_sure asked' exchanges opensNone loads
      (fun text mem => sure text (among text mem)) seed script).2

/-- Two ports of one host go two ways, also when the first one is asked for again. -/
theorem lines_as_if_alone_of_two_ports :
    let entry (name url : String) (rule : List (Bytes × Document)) : Document := .mapping [
      (ascii "name", .scalar (ascii name)), (ascii "url", .scalar (ascii url)),
      (ascii "rules", .sequence [.mapping rule])]
    let working : Config.FileTree := .directory [(ascii "proxies.yaml",
      .file (.document (.mapping [(ascii "proxies", .sequence [
        entry "q" "http://q" [(ascii "type", .scalar (ascii "port")),
          (ascii "port", .scalar (ascii "8080"))],
        entry "p" "socks5://p" [(ascii "type", .scalar (ascii "default"))]])])))]
    let output (arguments : List String) (seed : UInt64) :=
      (run (arguments.map ascii) seed working.locate? {}).output
    output ["-d", ".", "a:8080", "a", "a:8080"] 1 =
        output ["-d", ".", "-c", "127.0.0.1", "a:8080"] 2 ++
        (output ["-d", ".", "-c", "127.0.0.1", "a"] 2 ++
        output ["-d", ".", "-c", "127.0.0.1", "a:8080"] 2) ∧
      output ["-d", ".", "-c", "127.0.0.1", "a:8080"] 2 = ascii "a:8080 -> q http://q:80\n" ∧
      output ["-d", ".", "-c", "127.0.0.1", "a"] 2 = ascii "a:80 -> p socks5://p:1080\n" := by
  intro entry working output
  let o : Options :=
    { directory := ascii ".", targets := [ascii "a:8080", ascii "a", ascii "a:8080"] }
  let registry : Registry :=
    { source := ascii "./proxies.yaml"
      candidates := [{ name := ascii "q", url := ascii "http://q", rules := [.port 8080] }]
      fallback := some { name := ascii "p", url := ascii "socks5://p", rules := [.fallback] } }
  have asked : Invocation.ofArguments (["-d", ".", "a:8080", "a", "a:8080"].map ascii) =
      .route o := by decide +kernel
  have loads : (Config.load working.locate? o.directory).1 = .loaded registry := by decide +kernel
  have sure : ∀ text ∈ o.targets, ∃ target, HostPort.parse? text o.fallbackPort = some target ∧
      (registry.matching (o.flow target)).length ≤ 1 := by
    have ported : HostPort.parse? (ascii "a:8080") o.fallbackPort = some ⟨ascii "a", 8080⟩ := by
      decide +kernel
    have plain : HostPort.parse? (ascii "a") o.fallbackPort = some ⟨ascii "a", 80⟩ := by
      decide +kernel
    intro text mem
    simp only [o, List.mem_cons, List.not_mem_nil, or_false] at mem
    rcases mem with rfl | rfl | rfl
    · exact ⟨_, ported, by decide +kernel⟩
    · exact ⟨_, plain, by decide +kernel⟩
    · exact ⟨_, ported, by decide +kernel⟩
  obtain ⟨-, printed, -⟩ := lines_as_if_alone asked rfl rfl loads sure 2 {}
  have whole := (printed 1 {}).2
  simp only [o, List.map_cons, List.map_nil, List.flatten_cons, List.flatten_nil,
    List.append_nil] at whole
  exact ⟨whole, by decide +kernel, by decide +kernel⟩

end ProxyRouting.CommandLine
