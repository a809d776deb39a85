import OffloadBench.CommandLine.Options
import OffloadBench.CommandLine.Problem
import OffloadBench.Run

/-! # The text of a report

For people, a line for the run and one for each test set. As JSON, the members of a report stand in
the order of their names on one line, and in the order of a report when set out.
-/
namespace OffloadBench
open CommandLine Json

def CommandLine.listText (ns : List Nat) : String :=
  "[" ++ ", ".intercalate (ns.map Text.decimal) ++ "]"

namespace SetReport

def line (set : SetReport) : String :=
  s!"  set {set.index.toNat}: sent {listText set.sendOrder}, " ++
    s!"received {listText (set.arrivalOrder.map UInt8.toNat)}\n"

def value (set : SetReport) : Value :=
  .object [
    ("index", .nat set.index.toNat),
    ("send_order", .array (set.sendOrder.map .nat)),
    ("arrival_order", .array (set.arrivalOrder.map fun level => .nat level.toNat))]

end SetReport

namespace Report

def human (report : Report) (elapsed : Nat) : String :=
  s!"PASS: {report.setsCompleted.toNat} test set(s), {report.responsesVerified} responses " ++
    s!"verified (seed {report.seed.toNat}, device {report.device.toText}, {elapsed} ms)\n" ++
    String.join (report.sets.map SetReport.line)

def value (report : Report) (elapsed : Nat) : Value :=
  .object [
    ("seed", .nat report.seed.toNat),
    ("device_id", .string report.device.toText),
    ("sets_completed", .nat report.setsCompleted.toNat),
    ("responses_verified", .nat report.responsesVerified),
    ("elapsed_ms", .nat elapsed),
    ("sets", .array (report.sets.map SetReport.value))]

def text (report : Report) (elapsed : Nat) : OutputFormat → String
  | .human => human report elapsed
  | .json => (value report elapsed).normalize.compact ++ "\n"
  | .jsonPretty => (value report elapsed).pretty ++ "\n"

end Report

def CommandLine.Problem.text (p : Problem) (format : OutputFormat) : String :=
  let body := match format with
    | .human => p.human
    | .json => p.json
    | .jsonPretty => p.jsonPretty
  String.ofList (Text.trimEnd body.toList) ++ "\n"

end OffloadBench
