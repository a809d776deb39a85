import OffloadBench.CommandLine.Given

/-! # Invocations

A command with all that its options say. Of an option on both sides of the command, the one behind
it counts.
-/
namespace OffloadBench.CommandLine
open Device

structure CommonArguments where
  format : OutputFormat := .human
  verbosity : Nat := 0
  quiet : Bool := false
  config : Option String := none
  statusFile : Option String := none

/-- The side behind the command counts wherever it says something. -/
def CommonArguments.ofGiven (before behind : Given) : CommonArguments where
  format := (behind.format.orElse fun _ => before.format).getD .human
  verbosity := if behind.seen.contains .verbose then behind.verbosity else before.verbosity
  quiet := behind.quiet || before.quiet
  config := behind.config.orElse fun _ => before.config
  statusFile := behind.statusFile.orElse fun _ => before.statusFile

structure OverrideArguments where
  sets : Option UInt32 := none
  seed : Option UInt64 := none
  levelOffset : Option UInt8 := none
  dumpPackets : Bool := false

def OverrideArguments.ofGiven (g : Given) : OverrideArguments where
  sets := g.sets
  seed := g.seed
  levelOffset := g.levelOffset
  dumpPackets := g.dumpPackets

structure RunArguments where
  target : Address
  bind : Address
  timeout : Option UInt64
  deviceId : Option Identifier
  overrides : OverrideArguments

structure SimulateArguments where
  engineSeed : Option UInt64 := none
  fault : Option FaultKind := none
  faultLevel : UInt8 := 1
  faultSet : UInt64 := 0
  engineLevelOffset : UInt8 := 0
  overrides : OverrideArguments := {}

inductive Command
  | run (arguments : RunArguments)
  | simulate (arguments : SimulateArguments)

structure Invocation where
  common : CommonArguments
  command : Command

namespace Invocation

def commandOf (name : CommandName) (g : Given) : Except Halt Command :=
  match name with
  | .simulate => .ok (.simulate {
      engineSeed := g.engineSeed
      fault := g.fault
      faultLevel := g.faultLevel
      faultSet := g.faultSet
      engineLevelOffset := g.engineLevelOffset
      overrides := .ofGiven g })
  | .run =>
    match g.target with
    | none => .error (.required .target)
    | some target => .ok (.run {
        target
        bind := g.bind
        timeout := g.timeout
        deviceId := g.deviceId
        overrides := .ofGiven g })

def helpOn : List String → Halt
  | [] => .help ⟨.tool, true⟩
  | name :: rest =>
    match Page.commands.lookup name, rest with
    | some topic, [] => .help ⟨topic, true⟩
    | some _, argument :: _ => .unexpectedArgument argument
    | none, _ => .unknownCommand name

def ofArguments (arguments : List String) : Except Halt Invocation := do
  let (before, rest) ← options .tool {} arguments
  match rest with
  | [] => .error .noCommand
  | "help" :: rest => .error (helpOn rest)
  | name :: rest =>
    match CommandName.ofName? name with
    | none => .error (.unknownCommand name)
    | some name =>
      let (behind, rest) ← options (.command name) {} rest
      match rest with
      | [] | ["--"] =>
        let command ← commandOf name behind
        return { common := .ofGiven before behind, command }
      | argument :: _ => .error (.unexpectedArgument argument)

end Invocation

end OffloadBench.CommandLine
