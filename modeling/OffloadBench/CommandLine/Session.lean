import OffloadBench.CommandLine.Invocation
import OffloadBench.CommandLine.ReportText
import OffloadBench.Config.Document
import OffloadBench.Engine.Simulator

/-! # Sessions

What the tool does between reading its arguments and printing: it loads the settings, conducts a
run, and turns the outcome into a report or a problem, a status word and an exit code. The world
outside is given: the file layer, the environment, the clock.
-/
namespace OffloadBench.CommandLine
open Config Device Engine

structure Surroundings where
  file : Option FileLayer := none
  environment : List Binding := []
  clock : UInt64 := 0

/-- Why there is no report: the command was rejected before a run, or the run was aborted, with its
seed once there is one. -/
inductive Failure
  | rejected (problem : Problem)
  | aborted (fault : Fault) (seed : Option UInt64)

namespace Failure

def problem : Failure → Problem
  | .rejected problem => problem
  | .aborted fault seed =>
    match seed with
    | some seed => (Problem.ofFault fault).withContext "seed" (.nat seed.toNat)
    | none => .ofFault fault

/-- A rejection has no failure code of its own. -/
def status : Failure → StatusWord
  | .rejected _ => .failure 0
  | .aborted fault _ => .failure fault.failureCode

def exitCode : Failure → Int
  | .rejected problem => problem.exitCode
  | .aborted fault _ => ExitCode.ofFault fault

end Failure

def OverrideArguments.bindings (o : OverrideArguments) : List Binding :=
  (o.sets.map fun n => (Key.name .testSets, Text.decimal n.toNat)).toList ++
    (o.seed.map fun n => (Key.name .seed, Text.decimal n.toNat)).toList ++
    (o.levelOffset.map fun n => (Key.name .responseLevelOffset, Text.decimal n.toNat)).toList ++
    (if o.dumpPackets then [(Key.name .dumpPackets, "true")] else [])

def loadSettings (s : Surroundings) (o : OverrideArguments) : Except Failure Settings :=
  match load (FileLayer.settings s.file) s.environment o.bindings with
  | .ok settings => .ok settings
  | .error e => .error (.rejected (.ofFault (.config e)))

def execute {σ : Type} (t : Transport σ) (state : σ) (settings : Settings) (clock : UInt64) :
    Except Failure Report :=
  match Harness.ofSettings settings (Draw.Generator.clockSeed clock) with
  | .error fault => .error (.aborted fault none)
  | .ok harness =>
    match (harness.run t state).1 with
    | .error fault => .error (.aborted fault (some harness.seed))
    | .ok report => .ok report

def FaultKind.faults (kind : FaultKind) (level : UInt8) (set : UInt64) : Faults :=
  let faults : Faults := { round := some set }
  match kind with
  | .duplicate => { faults with duplicate := some level }
  | .corrupt => { faults with corrupt := some ⟨level, 8, 1⟩ }
  | .truncate => { faults with truncate := some ⟨level, 4⟩ }
  | .drop => { faults with drop := some level }
  | .empty => { faults with empty := some level }
  | .misorderAccumulate => { faults with reverse := true }

namespace SimulateArguments

def engineSettings (a : SimulateArguments) : EngineSettings :=
  let standard : EngineSettings := {}
  { standard with
    seed := a.engineSeed.getD standard.seed
    levelOffset := a.engineLevelOffset
    faults := (a.fault.map fun kind => kind.faults a.faultLevel a.faultSet).getD {} }

def conduct (a : SimulateArguments) (s : Surroundings) : Except Failure Report := do
  let settings ← loadSettings s a.overrides
  let maxLevel := settings.packet.maxLevel
  if a.fault.isSome ∧ maxLevel < a.faultLevel then
    .error (.rejected (.invalidArgument "--fault-level"
      s!"level {a.faultLevel.toNat} exceeds max_level {maxLevel.toNat}"))
  else execute Simulator.transport (.ofSettings a.engineSettings) settings s.clock

end SimulateArguments

namespace RunArguments

def settings (a : RunArguments) (s : Surroundings) : Except Failure Settings := do
  let settings ← loadSettings s a.overrides
  match a.timeout with
  | some timeout => return { settings with run := { settings.run with receiveTimeout := timeout } }
  | none => return settings

end RunArguments

/-- Carries out a command. The run command opens its transport outside of the session, and goes on
with whatever came of that. -/
def Command.conduct (command : Command) (s : Surroundings)
    (connected : RunArguments → Settings → Except Failure Report) : Except Failure Report :=
  match command with
  | .simulate a => a.conduct s
  | .run a => do connected a (← a.settings s)

structure Ending where
  printed : Except Problem Report
  status : StatusWord
  exitCode : Int

namespace Ending

def ofResult : Except Failure Report → Ending
  | .ok report => ⟨.ok report, .success, ExitCode.success⟩
  | .error failure => ⟨.error failure.problem, failure.status, failure.exitCode⟩

def output (e : Ending) (format : OutputFormat) (elapsed : Nat) : String :=
  match e.printed with
  | .ok report => report.text elapsed format
  | .error _ => ""

def errors (e : Ending) (format : OutputFormat) : String :=
  match e.printed with
  | .ok _ => ""
  | .error problem => problem.text format

def writeErrors (path reason : String) (format : OutputFormat) : String :=
  (Problem.writeFailed path reason).text format

def exitCodeUnwritten (e : Ending) : Int :=
  if e.exitCode = ExitCode.success then ExitCode.userError else e.exitCode

end Ending

end OffloadBench.CommandLine
