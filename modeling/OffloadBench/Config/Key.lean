import OffloadBench.Config.Error
import OffloadBench.Config.Settings

/-! # Keys

Every setting has a key, under which the environment and the overrides bind it to a text. One more
key is known and binds nothing: it belongs to the tool's log.
-/
namespace OffloadBench.Config
open Text

def keyMark : String := "RDHARNESS_"

inductive Key
  | elementCount
  | maxLevel
  | collectiveId
  | collectiveType
  | opCode
  | testSets
  | seed
  | responseLevelOffset
  | receiveTimeout
  | dumpPackets
  | log
  deriving DecidableEq, Repr

namespace Key

def all : List Key :=
  [.elementCount, .maxLevel, .collectiveId, .collectiveType, .opCode, .testSets, .seed,
    .responseLevelOffset, .receiveTimeout, .dumpPackets, .log]

def name : Key → String
  | .elementCount => "RDHARNESS_PACKET_ELEMENT_COUNT"
  | .maxLevel => "RDHARNESS_PACKET_MAX_LEVEL"
  | .collectiveId => "RDHARNESS_PACKET_COLLECTIVE_ID"
  | .collectiveType => "RDHARNESS_PACKET_COLLECTIVE_TYPE"
  | .opCode => "RDHARNESS_PACKET_OP_CODE"
  | .testSets => "RDHARNESS_RUN_TEST_SETS"
  | .seed => "RDHARNESS_RUN_SEED"
  | .responseLevelOffset => "RDHARNESS_RUN_RESPONSE_LEVEL_OFFSET"
  | .receiveTimeout => "RDHARNESS_RUN_RECEIVE_TIMEOUT_MS"
  | .dumpPackets => "RDHARNESS_RUN_DUMP_PACKETS"
  | .log => "RDHARNESS_LOG"

def ofName? (name : String) : Option Key := all.find? fun key => key.name = name

end Key

def below? (bound : Nat) (value : String) : Option UInt64 :=
  (numeral? value.toList).filter fun n => n.toNat < bound

def optional? (value : String) : Option (Option UInt64) :=
  match String.ofList (lowerAscii (trim value.toList)) with
  | "" | "none" | "off" => some none
  | _ => (numeral? value.toList).map some

def truth? (value : String) : Option Bool :=
  match String.ofList (lowerAscii (trim value.toList)) with
  | "1" | "true" | "yes" | "on" => some true
  | "0" | "false" | "no" | "off" => some false
  | _ => none

def Key.bind? (key : Key) (value : String) (s : Settings) : Option Settings :=
  match key with
  | .elementCount => (numeral? value.toList).map s.withElementCount
  | .maxLevel => (below? 256 value).map fun n => s.withMaxLevel n.toUInt8
  | .collectiveId => (below? 65536 value).map fun n =>
    { s with packet := { s.packet with collectiveId := n.toUInt16 } }
  | .collectiveType => (below? 256 value).map fun n =>
    { s with packet := { s.packet with collectiveType := n.toUInt8 } }
  | .opCode => (below? 256 value).map fun n =>
    { s with packet := { s.packet with opCode := n.toUInt8 } }
  | .testSets => (below? UInt32.size value).map fun n => s.withTestSets n.toUInt32
  | .seed => (optional? value).map fun seed => { s with run := { s.run with seed := seed } }
  | .responseLevelOffset => (below? 256 value).map fun n => s.withResponseLevelOffset n.toUInt8
  | .receiveTimeout => (optional? value).map fun timeout =>
    { s with run := { s.run with receiveTimeout := timeout } }
  | .dumpPackets => (truth? value).map fun enabled =>
    { s with run := { s.run with dumpPackets := enabled } }
  | .log => some s

end OffloadBench.Config
