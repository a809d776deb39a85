import OffloadBench.Json.Printer
import OffloadBench.Json.Reader
import OffloadBench.Status

/-! # Problems

What the tool prints when it has no report: a kind for machines, a title and a detail for people,
perhaps a suggestion, and a context of named values in the order of their names.
-/
namespace OffloadBench.CommandLine
open Json

structure Problem where
  kind : String
  title : String
  detail : String := ""
  suggestion : Option String := none
  context : List (String × Value) := []
  exitCode : Int := ExitCode.runtimeError

namespace Problem

def withDetail (p : Problem) (detail : String) : Problem := { p with detail := detail }

def withSuggestion (p : Problem) (suggestion : String) : Problem :=
  { p with suggestion := some suggestion }

def withContext (p : Problem) (name : String) (value : Value) : Problem :=
  { p with context := insertMember name value.normalize p.context }

def withExitCode (p : Problem) (code : Int) : Problem := { p with exitCode := code }

def toText (p : Problem) : String := s!"{p.kind}: {p.title}"

def human (p : Problem) : String :=
  let detail := if p.detail.isEmpty then "" else p.detail ++ "\n"
  let suggestion := match p.suggestion with
    | some suggestion => s!"\nSuggestion: {suggestion}\n"
    | none => ""
  let context := if p.context.isEmpty then "" else
    "\nContext:\n" ++
      String.join (p.context.map fun (name, value) => s!"  {name}: {value.compact}\n")
  s!"Error: {p.title}\n" ++ detail ++ suggestion ++ context

def members (p : Problem) : List (String × Value) :=
  [("type", .string p.kind), ("title", .string p.title)] ++
    (if p.detail.isEmpty then [] else [("detail", .string p.detail)]) ++
    (p.suggestion.map fun s => ("suggestion", .string s)).toList ++
    (if p.context.isEmpty then [] else [("context", .object p.context)]) ++
    [("exit_code", .int p.exitCode)]

def json (p : Problem) : String := (Value.object p.members).compact

def jsonPretty (p : Problem) : String := (Value.object p.members).pretty

def hint? : Fault → Option String
  | .receiveTimeout .. =>
    some "Check that the device is powered and reachable, or raise --timeout-ms"
  | .unknownLevel .. =>
    some "If the device reports stimulus level + 1, set run.response_level_offset to 1"
  | .config _ => some "Fix the configuration file or RDHARNESS_* variables"
  | _ => none

def ofFault (fault : Fault) : Problem :=
  let code := fault.failureCode
  let p : Problem := {
    kind := fault.faultClass.name
    title := fault.faultClass.title
    detail := fault.message
    suggestion := hint? fault
    exitCode := ExitCode.ofFault fault }
  let p := p.withContext "phase" (.string fault.phase.name)
  let p := p.withContext "failure_code" (.string (Text.hexMarked code.toNat))
  let p := p.withContext "status_word" (.string (StatusWord.failure code).toText)
  match fault.testSet? with
  | some set => p.withContext "test_set" (.nat set.toNat)
  | none => p

def invalidArgument (argument reason : String) : Problem where
  kind := "invalid_argument"
  title := s!"Invalid argument: {argument}"
  detail := reason
  exitCode := ExitCode.userError

def connectFailed (target reason : String) : Problem where
  kind := "connect_failed"
  title := s!"Cannot open transport to {target}"
  detail := reason
  suggestion := some "Check --bind and --target addresses"
  context := [("target", .string target)]

def writeFailed (path reason : String) : Problem where
  kind := "write_failed"
  title := "Failed to write output file"
  detail := reason
  context := [("path", .string path)]
  exitCode := ExitCode.userError

def text? : Value → Option String
  | .string s => some s
  | _ => none

def optionalText? : Value → Option (Option String)
  | .null => some none
  | .string s => some (some s)
  | _ => none

def contextOf? : Value → Option (List (String × Value))
  | .object members => some (normalizeMembers [] members)
  | _ => none

def exitCode? : Value → Option Int
  | .int n => if -2147483648 ≤ n ∧ n ≤ 2147483647 then some n else none
  | _ => none

/-- The only member of a name: a name that comes twice is refused. -/
def single? (members : List (String × Value)) (name : String) : Option (Option Value) :=
  match members.filter (·.1 = name) with
  | [] => some none
  | [(_, value)] => some (some value)
  | _ => none

def ofMembers? (members : List (String × Value)) : Option Problem := do
  let kind ← (← single? members "type").bind text?
  let title ← (← single? members "title").bind text?
  let detail ← ((← single? members "detail").map text?).getD (some "")
  let suggestion ← ((← single? members "suggestion").map optionalText?).getD (some none)
  let context ← ((← single? members "context").map contextOf?).getD (some [])
  let exitCode ← (← single? members "exit_code").bind exitCode?
  return { kind, title, detail, suggestion, context, exitCode }

/-- The problem of a JSON form: an object, or an array of all members in their order. -/
def ofValue? : Value → Option Problem
  | .object members => ofMembers? members
  | .array [kind, title, detail, suggestion, context, exitCode] => do
    return {
      kind := ← text? kind
      title := ← text? title
      detail := ← text? detail
      suggestion := ← optionalText? suggestion
      context := ← contextOf? context
      exitCode := ← exitCode? exitCode }
  | _ => none

def memberNames : List String :=
  ["type", "title", "detail", "suggestion", "context", "exit_code"]

def ofJson? (text : String) : Option Problem :=
  (Value.selecting? memberNames text).bind ofValue?

end Problem

end OffloadBench.CommandLine
