import OffloadBench.CommandLine.Address
import OffloadBench.CommandLine.Manual
import OffloadBench.CommandLine.Options
import OffloadBench.Device.Identifier

/-! # Given options

The options on one side of the command are read from left to right. An option may come once, and
counted options any number of times. A value follows its option, behind an equals sign or as the
next argument. Reading halts at the first mistake, and at a question about the tool.
-/
namespace OffloadBench.CommandLine
open Device Text

structure Given where
  seen : List Flag := []
  format : Option OutputFormat := none
  verbosity : Nat := 0
  quiet : Bool := false
  config : Option String := none
  statusFile : Option String := none
  sets : Option UInt32 := none
  seed : Option UInt64 := none
  levelOffset : Option UInt8 := none
  dumpPackets : Bool := false
  engineSeed : Option UInt64 := none
  fault : Option FaultKind := none
  faultLevel : UInt8 := 1
  faultSet : UInt64 := 0
  engineLevelOffset : UInt8 := 0
  target : Option Address := none
  bind : Address := .v4 [0, 0, 0, 0] 0
  timeout : Option UInt64 := none
  deviceId : Option Identifier := none

inductive Halt
  | help (page : Page)
  | version
  | unknownOption (text : String)
  | unexpectedValue (flag : Flag)
  | missingValue (flag : Flag)
  | badValue (flag : Flag) (text : String)
  | repeated (flag : Flag)
  | required (flag : Flag)
  | unexpectedArgument (text : String)
  | unknownCommand (text : String)
  | noCommand
  deriving DecidableEq, Repr

namespace Halt

def isMistake : Halt → Bool
  | .help _ | .version => false
  | _ => true

def message : Halt → String
  | .help page => page.text
  | .version => s!"{toolName} {toolVersion}\n"
  | .unknownOption text => s!"error: unexpected argument '{text}' found\n"
  | .unexpectedValue flag => s!"error: no value expected for '--{flag.name}'\n"
  | .missingValue flag => s!"error: a value is required for '--{flag.name}'\n"
  | .badValue flag text => s!"error: invalid value '{text}' for '--{flag.name}'\n"
  | .repeated flag => s!"error: '--{flag.name}' cannot be used multiple times\n"
  | .required flag => s!"error: '--{flag.name}' was not provided\n"
  | .unexpectedArgument text => s!"error: unexpected argument '{text}' found\n"
  | .unknownCommand text => s!"error: unrecognized subcommand '{text}'\n"
  | .noCommand => (Page.mk .tool false).text

end Halt

namespace Given

def natural? (most : Nat) (text : String) : Option Nat :=
  (signed? 0 most text.toList).map Int.toNat

def path? (text : String) : Option String := if text.isEmpty then none else some text

def word? (text : String) : Option UInt64 := (unsigned? 10 UInt64.size text.toList).map UInt64.ofNat

def set? (g : Given) (flag : Flag) (text : String) : Option Given :=
  match flag with
  | .format => (OutputFormat.ofText text).toOption.map fun v => { g with format := some v }
  | .config => (path? text).map fun v => { g with config := some v }
  | .statusFile => (path? text).map fun v => { g with statusFile := some v }
  | .sets => (natural? 4294967295 text).map fun v => { g with sets := some (UInt32.ofNat v) }
  | .seed => (numeral? text.toList).map fun v => { g with seed := some v }
  | .levelOffset => (natural? 255 text).map fun v => { g with levelOffset := some (UInt8.ofNat v) }
  | .engineSeed => (numeral? text.toList).map fun v => { g with engineSeed := some v }
  | .fault => (FaultKind.ofName? text).map fun v => { g with fault := some v }
  | .faultLevel => (natural? 255 text).map fun v => { g with faultLevel := UInt8.ofNat v }
  | .faultSet => (word? text).map fun v => { g with faultSet := v }
  | .engineLevelOffset => (natural? 255 text).map fun v =>
    { g with engineLevelOffset := UInt8.ofNat v }
  | .target => (Address.ofText? text).map fun v => { g with target := some v }
  | .bind => (Address.ofText? text).map fun v => { g with bind := v }
  | .timeout => (word? text).map fun v => { g with timeout := some v }
  | .deviceId => (Identifier.ofText? text).map fun v => { g with deviceId := some v }
  | _ => none

/-- Raises an option that takes no value. The page is the one to show if help is asked for. -/
def raise (g : Given) (flag : Flag) (page : Page) : Except Halt Given :=
  match flag with
  | .help => .error (.help page)
  | .version => .error .version
  | .verbose => .ok { g with verbosity := min (g.verbosity + 1) 255 }
  | .quiet => .ok { g with quiet := true }
  | .dumpPackets => .ok { g with dumpPackets := true }
  | _ => .error (.missingValue flag)

def note (g : Given) (flag : Flag) : Except Halt Given :=
  if g.seen.contains flag && !flag.isCounted then .error (.repeated flag)
  else .ok { g with seen := flag :: g.seen }

def addFlag (g : Given) (flag : Flag) (page : Page) : Except Halt Given := do
  if flag = .help ∨ flag = .version then g.raise flag page
  else (← g.note flag).raise flag page

def addValue (g : Given) (flag : Flag) (text : String) : Except Halt Given := do
  match (← g.note flag).set? flag text with
  | some g => .ok g
  | none => .error (.badValue flag text)

end Given

/-- What an argument amounts to: finished options, or an option that waits for its value. -/
inductive Step
  | done (given : Given)
  | waits (given : Given) (flag : Flag)

def letters (topic : Topic) (given : Given) : List Char → Except Halt Step
  | [] => .ok (.done given)
  | c :: rest =>
    match topic.flags.find? fun flag => flag.letter? = some c with
    | none => .error (.unknownOption s!"-{c}")
    | some flag =>
      if flag.takesValue then
        match rest with
        | [] => .ok (.waits given flag)
        | '=' :: value => (given.addValue flag (String.ofList value)).map .done
        | value => (given.addValue flag (String.ofList value)).map .done
      else do
        let given ← given.addFlag flag ⟨topic, false⟩
        letters topic given rest

def named (topic : Topic) (given : Given) (text : List Char) : Except Halt Step :=
  let name := String.ofList (text.takeWhile (· ≠ '='))
  let value := (text.dropWhile (· ≠ '=')).tail?
  match topic.flags.find? fun flag => flag.name = name with
  | none => .error (.unknownOption s!"--{name}")
  | some flag =>
    match value with
    | some value =>
      if flag.takesValue then (given.addValue flag (String.ofList value)).map .done
      else .error (.unexpectedValue flag)
    | none =>
      if flag.takesValue then .ok (.waits given flag)
      else (given.addFlag flag ⟨topic, true⟩).map .done

def step? (topic : Topic) (given : Given) (argument : String) : Except Halt (Option Step) :=
  match argument.toList with
  | ['-', '-'] => .ok none
  | '-' :: '-' :: text => (named topic given text).map some
  | ['-'] => .ok none
  | '-' :: text => (letters topic given text).map some
  | _ => .ok none

def isValue (argument : String) : Bool :=
  match argument.toList with
  | '-' :: _ :: _ => false
  | _ => true

def options (topic : Topic) (given : Given) :
    List String → Except Halt (Given × List String)
  | [] => .ok (given, [])
  | argument :: rest =>
    match step? topic given argument with
    | .error halt => .error halt
    | .ok none => .ok (given, argument :: rest)
    | .ok (some (.done given)) => options topic given rest
    | .ok (some (.waits given flag)) =>
      match rest with
      | [] => .error (.missingValue flag)
      | value :: rest =>
        if isValue value then
          match given.addValue flag value with
          | .error halt => .error halt
          | .ok given => options topic given rest
        else .error (.missingValue flag)

end OffloadBench.CommandLine
