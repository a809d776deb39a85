/-! # Flags

The options that arguments may name, by their names and letters, and which of them may stand in
front of the command and behind each command. Common options may stand on either side.
-/
namespace OffloadBench.CommandLine

inductive Flag
  | format
  | verbose
  | quiet
  | config
  | statusFile
  | help
  | version
  | sets
  | seed
  | levelOffset
  | dumpPackets
  | engineSeed
  | fault
  | faultLevel
  | faultSet
  | engineLevelOffset
  | target
  | bind
  | timeout
  | deviceId
  deriving DecidableEq, Repr

namespace Flag

def name : Flag → String
  | .format => "format"
  | .verbose => "verbose"
  | .quiet => "quiet"
  | .config => "config"
  | .statusFile => "status-file"
  | .help => "help"
  | .version => "version"
  | .sets => "sets"
  | .seed => "seed"
  | .levelOffset => "level-offset"
  | .dumpPackets => "dump-packets"
  | .engineSeed => "engine-seed"
  | .fault => "fault"
  | .faultLevel => "fault-level"
  | .faultSet => "fault-set"
  | .engineLevelOffset => "engine-level-offset"
  | .target => "target"
  | .bind => "bind"
  | .timeout => "timeout-ms"
  | .deviceId => "device-id"

def letter? : Flag → Option Char
  | .format => some 'f'
  | .verbose => some 'v'
  | .quiet => some 'q'
  | .help => some 'h'
  | .version => some 'V'
  | _ => none

def takesValue : Flag → Bool
  | .verbose | .quiet | .help | .version | .dumpPackets => false
  | _ => true

def isCounted (flag : Flag) : Bool := flag = .verbose

end Flag

inductive FaultKind
  | duplicate
  | corrupt
  | truncate
  | drop
  | empty
  | misorderAccumulate
  deriving DecidableEq, Repr

namespace FaultKind

def name : FaultKind → String
  | .duplicate => "duplicate"
  | .corrupt => "corrupt"
  | .truncate => "truncate"
  | .drop => "drop"
  | .empty => "empty"
  | .misorderAccumulate => "misorder-accumulate"

def all : List FaultKind :=
  [.duplicate, .corrupt, .truncate, .drop, .empty, .misorderAccumulate]

def ofName? (name : String) : Option FaultKind := all.find? fun kind => kind.name = name

end FaultKind

inductive CommandName
  | run
  | simulate
  deriving DecidableEq, Repr

namespace CommandName

def name : CommandName → String
  | .run => "run"
  | .simulate => "simulate"

def all : List CommandName := [.run, .simulate]

def ofName? (name : String) : Option CommandName := all.find? fun command => command.name = name

end CommandName

/-- What options belong to: the tool, of which they stand in front of the command, a command, or the
question about help. -/
inductive Topic
  | tool
  | command (name : CommandName)
  | help
  deriving DecidableEq, Repr

def Topic.flags : Topic → List Flag
  | .tool => [.format, .verbose, .quiet, .config, .statusFile, .help, .version]
  | .command .run => [.format, .target, .bind, .verbose, .quiet, .timeout, .config, .deviceId,
      .sets, .statusFile, .seed, .levelOffset, .dumpPackets, .help]
  | .command .simulate => [.engineSeed, .format, .fault, .verbose, .faultLevel, .quiet, .config,
      .faultSet, .engineLevelOffset, .statusFile, .sets, .seed, .levelOffset, .dumpPackets, .help]
  | .help => []

end OffloadBench.CommandLine
