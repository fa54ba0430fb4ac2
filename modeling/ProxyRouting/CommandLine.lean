import ProxyRouting.Connection.Trace

/-!
# The command line

The program is given a configuration directory and targets. It prints the route of each
target, and if it is asked to, opens a connection for each one that goes through a proxy.

The arguments are read from left to right; an option that takes a value and stands last is a
target like any other text, and a request for help is answered at once. The routes are
found one after another by one router, so that what it remembers of a target holds for
those behind it. An invalid target ends the program; connections of targets before it are
started but not awaited.
-/

namespace ProxyRouting.CommandLine

open Connection (Attempt Event Script Trace)

/-! ### Arguments -/

/-- What the arguments ask for. -/
structure Options where
  /-- The configuration directory. -/
  directory : Bytes := []
  /-- The address of the client for which routes are found. -/
  client : Bytes := ascii "127.0.0.1"
  /-- Whether the targets are those of tunnels. -/
  tunnel : Bool := false
  /-- Whether connections are opened. -/
  openConnections : Bool := false
  /-- The targets. -/
  targets : List Bytes := []
  deriving DecidableEq, Repr

namespace Options

/-- Whether an argument names the configuration directory by the next one. -/
def isDirectoryOption (argument : Bytes) : Bool :=
  argument = ascii "-d" || argument = ascii "--config-dir"

/-- Whether an argument names the client by the next one. -/
def isClientOption (argument : Bytes) : Bool :=
  argument = ascii "-c" || argument = ascii "--client"

/-- Reads an argument that stands for itself; `none` is a request for help. -/
def readSingle (o : Options) (argument : Bytes) : Option Options :=
  if argument = ascii "-t" ∨ argument = ascii "--tunnel" then some { o with tunnel := true }
  else if argument = ascii "-o" ∨ argument = ascii "--open" then
    some { o with openConnections := true }
  else if argument = ascii "-h" ∨ argument = ascii "--help" then none
  else some { o with targets := o.targets ++ [argument] }

/-- Reads arguments; `none` is a request for help. -/
def read (o : Options) : List Bytes → Option Options
  | [] => some o
  | [argument] => o.readSingle argument
  | argument :: next :: rest =>
    if isDirectoryOption argument then read { o with directory := next } rest
    else if isClientOption argument then read { o with client := next } rest
    else
      match o.readSingle argument with
      | some o => read o (next :: rest)
      | none => none

/-- The port of a target that names none. -/
def fallbackPort (o : Options) : UInt16 := if o.tunnel then 443 else 80

end Options

/-- What a command line comes to. -/
inductive Invocation where
  /-- A request for help. -/
  | help
  /-- Something is missing. -/
  | incomplete
  /-- Targets to be routed. -/
  | route (options : Options)
  deriving DecidableEq, Repr

/-- Reads a command line. -/
def Invocation.ofArguments (arguments : List Bytes) : Invocation :=
  match Options.read {} arguments with
  | none => .help
  | some o => if o.directory = [] ∨ o.targets = [] then .incomplete else .route o

/-- How the program is used. -/
def usage : Bytes :=
  ascii "Usage: upstream-mux -d|--config-dir DIR [-c|--client ADDR] [-t|--tunnel] " ++
    ascii "[-o|--open] TARGET...\n" ++
    ascii "  TARGET is host[:port]; the port defaults to 443 with --tunnel, 80 otherwise.\n"

/-! ### Routes -/

/-- The route of a target; without a decision it goes direct. -/
structure Route where
  /-- The target. -/
  target : HostPort
  /-- The decision about it. -/
  decision : Option Decision
  deriving DecidableEq, Repr

namespace Route

/-- What a line tells about credentials. -/
def accessText : Access → Bytes
  | .bare => []
  | .header _ => ascii " [proxy-authorization]"
  | .tunnel _ => ascii " [socks5 user/pass]"

/-- The line about a route. -/
def line (route : Route) : Bytes :=
  match route.decision with
  | none => route.target.text ++ ascii " -> direct\n"
  | some d =>
    route.target.text ++ ascii " -> " ++ d.proxy.name ++ ascii " " ++ d.via.text ++
      accessText d.access ++ ascii "\n"

/-- The connection to be opened for a route. -/
def attempt? (route : Route) : Option Attempt :=
  route.decision.map (Attempt.ofDecision · route.target)

end Route

/-- The routes of targets, up to the first invalid one. -/
structure Routing where
  /-- The routes. -/
  routes : List Route := []
  /-- The notices made on the way. -/
  notices : List Notice := []
  /-- The invalid target. -/
  invalid : Option Bytes := none
  deriving DecidableEq, Repr

namespace Options

/-- The flow of a target. -/
def flow (o : Options) (target : HostPort) : Flow where
  host := some target.host
  port := some target.port
  client := o.client

/-- The decision about a target. -/
def decide (o : Options) (router : Router) (target : HostPort) :
    Option Decision × List Notice × Router :=
  if o.tunnel then router.tunnelConnect (o.flow target) else router.request (o.flow target)

/-- The routes of some targets. -/
def routeAll (o : Options) : Router → List Bytes → Routing
  | _, [] => {}
  | router, text :: rest =>
    match HostPort.parse? text o.fallbackPort with
    | none => { invalid := some text }
    | some target =>
      let (decision, notices, router) := o.decide router target
      let others := routeAll o router rest
      { others with
        routes := ⟨target, decision⟩ :: others.routes
        notices := notices ++ others.notices }

end Options

/-! ### Running -/

/-- A line about what makes the program stop. -/
def fatal (text : Bytes) : Bytes := ascii "[fatal] " ++ text ++ ascii "\n"

/-- What the program has written before it waits for connections. -/
structure Preparation where
  /-- The standard output. -/
  output : Bytes := []
  /-- The standard error. -/
  errors : Bytes := []
  /-- The connections that were started. -/
  attempts : List Attempt := []
  /-- The exit code, if the program does not go on to wait for them. -/
  stopped : Option Nat := none
  deriving DecidableEq, Repr

/-- Finds the routes of the targets. -/
def Options.prepare (o : Options) (seed : UInt64) (lookup : Config.Lookup) : Preparation :=
  let (result, notices, router) := (Router.ofSeed seed).configure lookup o.directory
  match result with
  | .loaded _ =>
    let routing := o.routeAll router o.targets
    { output := routing.routes.flatMap Route.line
      errors := Notice.log (notices ++ routing.notices) ++
        match routing.invalid with
        | some text => fatal (ascii "invalid target " ++ Notice.quoted text)
        | none => []
      attempts := if o.openConnections then routing.routes.filterMap Route.attempt? else []
      stopped := routing.invalid.map fun _ => 1 }
  | _ =>
    { errors := Notice.log notices ++ fatal (ascii "no usable configuration in " ++ o.directory)
      stopped := some 1 }

/-- What an invocation comes to before connections are awaited. -/
def Invocation.prepare (seed : UInt64) (lookup : Config.Lookup) : Invocation → Preparation
  | help => { output := usage, stopped := some 0 }
  | incomplete => { output := usage, stopped := some 1 }
  | route o => o.prepare seed lookup

/-- A finished run of the program. -/
structure Report where
  /-- The exit code. -/
  exitCode : Nat
  /-- The standard output. -/
  output : Bytes
  /-- The standard error. -/
  errors : Bytes
  /-- What the network saw. -/
  events : List Event
  deriving DecidableEq, Repr

/-- Awaits the connections that were started. -/
def Preparation.finish (p : Preparation) (script : Script) : Report :=
  match p.stopped with
  | some exitCode => ⟨exitCode, p.output, p.errors, Connection.startEvents p.attempts⟩
  | none =>
    let trace := Connection.runAll script p.attempts
    { exitCode := if trace.allOpen then 0 else 2
      output := p.output ++ trace.reports
      errors := p.errors ++ trace.complaints
      events := trace.events }

/-- Runs the program over a scripted network. -/
def run (arguments : List Bytes) (seed : UInt64) (lookup : Config.Lookup) (script : Script) :
    Report :=
  ((Invocation.ofArguments arguments).prepare seed lookup).finish script

end ProxyRouting.CommandLine
