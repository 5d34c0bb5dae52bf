import EventLoop.Machine.Step

/-!
# Scenarios

A scenario builds a loop on a host and then does instructions one after another from outside. The
report says how building went and, for each instruction, its value, the time after it and what was
written down during it. Where building fails, no instruction is done.
-/
namespace EventLoop

open Script (Instruction)

/-- What completes operations, as the builder is told. -/
inductive CompleterChoice
  /-- The engine, with the builder's own limit of reports. -/
  | standard
  /-- The engine, with a limit of reports of its own. -/
  | engine (limit : Nat)
  /-- The scripted proactor. -/
  | scripted
  deriving DecidableEq, Repr, Inhabited

/-- What the builder of a loop is told; what it is not told stays at its default. -/
structure Configuration where
  /-- How many bytes a transport receives at once. -/
  readSize : Option Nat := none
  /-- How many lost writes are warned about. -/
  lostWrites : Option Nat := none
  /-- How many reports the engine takes at once. -/
  maxEvents : Option Nat := none
  /-- What completes operations. -/
  completer : CompleterChoice := .standard
  deriving Repr, Inhabited

/-- The host that a scenario plays on. -/
structure Stage where
  /-- How many bytes the buffer of a socket holds. -/
  capacity : Nat := 65536
  /-- How connection attempts proceed. -/
  connect : Kernel.ConnectMode := .inProgress
  /-- The faults that are armed from the beginning. -/
  faults : List Kernel.Fault := []
  /-- What is written down. -/
  journal : JournalSettings := {}
  deriving Inhabited

/-- A scenario. -/
structure Scenario where
  /-- How the loop is built. -/
  configuration : Configuration
  /-- The host that it plays on. -/
  stage : Stage
  /-- What is done. -/
  instructions : List Instruction

/-- Why a loop could not be built. -/
inductive BuildError
  /-- A setting that has to be positive is zero. -/
  | zero (setting : String)
  /-- The host refused. -/
  | refused (error : Error)

/-- The value that shows why a loop could not be built. -/
def BuildError.value : BuildError → Value
  | zero setting => .object [("error", .str "panic"), ("message", .str (setting ++ " must be > 0"))]
  | refused error => World.errorValue error

/-- How an instruction went. -/
structure StepReport where
  /-- Its value. -/
  value : Value
  /-- The time after it. -/
  time : Nat
  /-- What was written down during it. -/
  log : List Value

/-- How a scenario went. -/
structure Report where
  /-- How building went. -/
  build : Value
  /-- What was written down while building. -/
  buildLog : List Value
  /-- How each instruction went. -/
  steps : List StepReport

namespace Configuration

/-- A setting that has to be positive. -/
def positive (setting : String) (given : Option Nat) (default : Nat) : Except BuildError Nat :=
  match given with
  | none => .ok default
  | some 0 => .error (.zero setting)
  | some value => .ok value

/-- The settings of a loop; the first one that is zero is refused. -/
def settings (configuration : Configuration) : Except BuildError Settings := do
  let default : Settings := {}
  let readSize ← positive "read_buffer_size" configuration.readSize default.readSize
  let lostWrites ← positive "lost_write_threshold" configuration.lostWrites default.lostWrites
  let maxEvents ← positive "max_events" configuration.maxEvents default.maxEvents
  return { readSize, lostWrites, maxEvents }

end Configuration

namespace Stage

/-- The host at the beginning. -/
def host (stage : Stage) : Host where
  kernel := { capacity := stage.capacity, mode := stage.connect, faults := stage.faults }
  journal := .empty stage.journal

end Stage

namespace Scenario

/-- Makes what completes operations. -/
def makeCompleter (choice : CompleterChoice) (settings : Settings) :
    HostM (Except BuildError Completer) := do
  let limit? := match choice with
    | .standard => some settings.maxEvents
    | .engine limit => some limit
    | .scripted => none
  match limit? with
  | none => return .ok (.scripted {})
  | some limit =>
    match ← Host.silent (·.makePoller) with
    | .error error => return .error (.refused (.ofErrno error))
    | .ok poller => return .ok (.engine (.new poller limit))

/-- Builds the loop in a world that has what completes operations. If its own pipe cannot be made, the
poller is closed again. -/
def buildLoop : WorldM (Except BuildError Unit) := do
  World.message .debug ("Using proactor: " ++ (← get).completer.name)
  match ← World.makePipe with
  | .ok () => return .ok ()
  | .error error =>
    World.closePoller
    return .error (.refused (.ofErrno error))

/-- Builds the world of a scenario. -/
def build (scenario : Scenario) : Except BuildError Unit × World :=
  let host := scenario.stage.host
  let bare : World := { host, completer := .scripted {} }
  match scenario.configuration.settings with
  | .error error => (.error error, bare)
  | .ok settings =>
    match makeCompleter scenario.configuration.completer settings host with
    | (.error error, host) => (.error error, { bare with host })
    | (.ok completer, host) => buildLoop { bare with host, settings, completer }

/-- What was written down since the last look, and the world without it. -/
def takeLog (world : World) : List Value × World :=
  let (log, journal) := world.host.journal.take
  (log, { world with host := { world.host with journal } })

/-- Does instructions one after another and reports on each. -/
def play (world : World) : List Instruction → List StepReport
  | [] => []
  | instruction :: rest =>
    let (value, world) := Machine.execute instruction world
    let (log, world) := takeLog world
    { value, time := world.host.kernel.now, log } :: play world rest

/-- Plays a scenario. -/
def report (scenario : Scenario) : Report :=
  let (result, world) := scenario.build
  let (buildLog, world) := takeLog world
  match result with
  | .error error => { build := error.value, buildLog, steps := [] }
  | .ok () => { build := .ok .null, buildLog, steps := play world scenario.instructions }

end Scenario

end EventLoop
