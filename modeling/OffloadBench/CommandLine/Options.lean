import OffloadBench.Text.LowerCase
import OffloadBench.Text.Numeral

/-! # Output formats and log levels -/
namespace OffloadBench.CommandLine
open Text

inductive OutputFormat
  | human
  | json
  | jsonPretty
  deriving DecidableEq, Repr, Inhabited

structure UnknownFormat where
  text : String
  deriving DecidableEq, Repr

def UnknownFormat.message (e : UnknownFormat) : String :=
  s!"Unknown output format '{e.text}'. Valid formats: human, json, json-pretty"

namespace OutputFormat

def name : OutputFormat → String
  | .human => "human"
  | .json => "json"
  | .jsonPretty => "json-pretty"

def ofText (text : String) : Except UnknownFormat OutputFormat :=
  match lower text with
  | "human" | "text" | "plain" => .ok .human
  | "json" => .ok .json
  | "json-pretty" | "pretty" => .ok .jsonPretty
  | other => .error ⟨other⟩

end OutputFormat

inductive LogLevel
  | error
  | warn
  | info
  | debug
  | trace
  deriving DecidableEq, Repr

namespace LogLevel

def name : LogLevel → String
  | .error => "ERROR"
  | .warn => "WARN"
  | .info => "INFO"
  | .debug => "DEBUG"
  | .trace => "TRACE"

def ofText? (text : String) : Option LogLevel :=
  let body := trim text.toList
  match unsigned? 10 UInt64.size body, String.ofList (lowerAscii body) with
  | some 1, _ | _, "error" => some .error
  | some 2, _ | _, "warn" => some .warn
  | some 3, _ | _, "info" => some .info
  | some 4, _ | _, "debug" => some .debug
  | some 5, _ | _, "trace" => some .trace
  | _, _ => none

/-- The level in effect: quiet beats verbose, and a fallback counts only if neither is asked for. -/
def effective (quiet : Bool) (verbosity : Nat) (fallback : Option LogLevel) : LogLevel :=
  if quiet then .error
  else
    match verbosity with
    | 0 => fallback.getD .info
    | 1 => .debug
    | _ => .trace

end LogLevel

end OffloadBench.CommandLine
