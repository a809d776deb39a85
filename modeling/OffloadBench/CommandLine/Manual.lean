import OffloadBench.CommandLine.Flag

/-! # Manual

What the tool says about itself: a page for the tool, for each command and for the question about
help. Descriptions stand beside the options, or below them where they would not fit.
-/
namespace OffloadBench.CommandLine

def toolName : String := "rdharness"

def toolVersion : String := "0.1.0"

def FaultKind.summary : FaultKind → String
  | .duplicate => "Repeat one response"
  | .corrupt => "Flip one payload byte"
  | .truncate => "Shorten one response"
  | .drop => "Withhold one response"
  | .empty => "Send an empty frame"
  | .misorderAccumulate => "Accumulate from the top level down"

namespace Flag

def summary : Flag → String
  | .format => "Output format: human, json, json-pretty"
  | .verbose => "Increase verbosity (-v debug, -vv trace)"
  | .quiet => "Only log errors"
  | .config => "YAML configuration file"
  | .statusFile => "Write the final status word to this file"
  | .help => "Print help"
  | .version => "Print version"
  | .sets => "Number of test sets"
  | .seed => "Scheduling seed (decimal or 0x hex); derived from the clock if unset"
  | .levelOffset => "Offset between stimulus level and reported response level"
  | .dumpPackets => "Hex-dump every frame at trace level"
  | .engineSeed => "Seed for the engine's response reordering"
  | .fault => "Inject one fault into the engine"
  | .faultLevel => "Level the fault applies to"
  | .faultSet => "Test set the fault applies to"
  | .engineLevelOffset => "Engine reports stimulus level + this offset"
  | .target => "Device address"
  | .bind => "Local address to bind"
  | .timeout => "Per-receive timeout in milliseconds"
  | .deviceId => "Device identifier to report (12 hex digits)"

def standard? : Flag → Option String
  | .faultLevel => some "1"
  | .faultSet => some "0"
  | .engineLevelOffset => some "0"
  | .bind => some "0.0.0.0:0"
  | _ => none

def choices : Flag → List FaultKind
  | .fault => FaultKind.all
  | _ => []

def placeholder (flag : Flag) : String :=
  "<" ++ flag.name.map (fun c => if c = '-' then '_' else c.toUpper) ++ ">"

def label (flag : Flag) : String :=
  let behind :=
    if flag.takesValue then " " ++ flag.placeholder else if flag.isCounted then "..." else ""
  "--" ++ flag.name ++ behind

end Flag

namespace Topic

def summary : Topic → String
  | .tool => "Out-of-order verification harness for recursive-doubling offload engines"
  | .command .run => "Verify a device reachable over UDP"
  | .command .simulate => "Verify the in-process simulated engine"
  | .help => "Print this message or the help of the given subcommand(s)"

def usage : Topic → String
  | .tool => s!"{toolName} [OPTIONS] <COMMAND>"
  | .command .run => s!"{toolName} run [OPTIONS] {Flag.target.label}"
  | .command .simulate => s!"{toolName} simulate [OPTIONS]"
  | .help => s!"{toolName} help [COMMAND]..."

end Topic

structure Page where
  topic : Topic
  long : Bool
  deriving DecidableEq, Repr

namespace Page

def hasMore (p : Page) : Bool := p.topic.flags.any fun flag => !flag.choices.isEmpty

def isLong (p : Page) : Bool := p.long && p.hasMore

def summary (p : Page) (flag : Flag) : String :=
  if flag = .help && p.hasMore then
    if p.long then "Print help (see a summary with '-h')"
    else "Print help (see more with '--help')"
  else flag.summary

def line (p : Page) (flag : Flag) : String :=
  let standard := flag.standard?.map fun text => s!"[default: {text}]"
  let choices :=
    if flag.choices.isEmpty then none
    else
      let names := ", ".intercalate (flag.choices.map FaultKind.name)
      some s!"[possible values: {names}]"
  " ".intercalate (p.summary flag :: (standard.toList ++ choices.toList))

def spaces (count : Nat) : String := String.ofList (List.replicate count ' ')

def column (gap : Nat) (rows : List (String × String)) : List String :=
  let width := (rows.map (·.1.length)).foldl max 0
  rows.map fun (name, meaning) => name ++ spaces (width + gap - name.length) ++ meaning

def indent : String := "\n" ++ spaces 10

def paragraphs (p : Page) (flag : Flag) : String :=
  let choices :=
    if flag.choices.isEmpty then ""
    else
      let rows := column 1 (flag.choices.map fun kind => (kind.name ++ ":", kind.summary))
      let rows := rows.map fun row => indent ++ "- " ++ row
      "\n" ++ indent ++ "Possible values:" ++ String.join rows
  let standard := match flag.standard? with
    | some text => indent ++ indent ++ s!"[default: {text}]"
    | none => ""
  p.summary flag ++ choices ++ standard

def labelWidth (p : Page) : Nat := (p.topic.flags.map (·.label.length)).foldl max 0

/-- Descriptions stand below their options if the labels take more than 40 of 100 columns and one of
them does not fit into the rest. -/
def isBelow (p : Page) : Bool :=
  let taken := p.labelWidth + 12
  40 < taken && p.topic.flags.any fun flag => 100 - taken < (p.line flag).length

def letterMark (flag : Flag) : String :=
  match flag.letter? with
  | some c => s!"  -{c}, "
  | none => "      "

def options (p : Page) : String :=
  if p.isLong then
    "\n\n".intercalate
      (p.topic.flags.map fun flag => letterMark flag ++ flag.label ++ indent ++ p.paragraphs flag)
  else if p.isBelow then
    "\n".intercalate
      (p.topic.flags.map fun flag => letterMark flag ++ flag.label ++ indent ++ p.line flag)
  else
    "\n".intercalate
      (column 2 (p.topic.flags.map fun flag => (letterMark flag ++ flag.label, p.line flag)))

def commands : List (String × Topic) :=
  CommandName.all.map (fun command => (command.name, .command command)) ++ [("help", .help)]

def sections (p : Page) : List (String × String) :=
  match p.topic with
  | .tool =>
    let rows := column 2 (commands.map fun (name, topic) => ("  " ++ name, topic.summary))
    [("Commands", "\n".intercalate rows), ("Options", p.options)]
  | .command _ => [("Options", p.options)]
  | .help => [("Arguments", "  [COMMAND]...  Print help for the subcommand(s)")]

def text (p : Page) : String :=
  let parts := p.sections.map fun (title, body) => s!"{title}:\n{body}"
  "\n\n".intercalate (p.topic.summary :: s!"Usage: {p.topic.usage}" :: parts) ++ "\n"

end Page

end OffloadBench.CommandLine
