import OffloadBench.Stimulus.Pattern
import OffloadBench.Wire.Frame

/-! # Settings

The frame geometry with the metadata that all stimuli share, and the parameters of a run.
-/
namespace OffloadBench.Config
open Wire

structure PacketSettings where
  elementCount : UInt64 := 256
  maxLevel : UInt8 := 3
  collectiveId : UInt16 := 0xABCD
  collectiveType : UInt8 := 1
  opCode : UInt8 := 5
  deriving DecidableEq, Repr

namespace PacketSettings

def layout (p : PacketSettings) : Layout := ⟨p.elementCount⟩

def levelCount (p : PacketSettings) : Nat := p.maxLevel.toNat + 1

def metadata (p : PacketSettings) (level : UInt8) : Metadata where
  collectiveId := p.collectiveId
  collectiveType := p.collectiveType
  opCode := p.opCode
  maxLevel := p.maxLevel
  level := level

end PacketSettings

structure RunSettings where
  testSets : UInt32 := 1
  /-- Without a seed, one is read off the clock. -/
  seed : Option UInt64 := none
  /-- Responses report the stimulus level plus this offset. -/
  responseLevelOffset : UInt8 := 0
  /-- In milliseconds; without a timeout, a wait has no end. -/
  receiveTimeout : Option UInt64 := none
  dumpPackets : Bool := false
  deriving DecidableEq, Repr

structure Settings where
  packet : PacketSettings := {}
  run : RunSettings := {}
  deriving DecidableEq, Repr

namespace Settings

def withTestSets (s : Settings) (n : UInt32) : Settings :=
  { s with run := { s.run with testSets := n } }

def withSeed (s : Settings) (seed : UInt64) : Settings :=
  { s with run := { s.run with seed := some seed } }

def withElementCount (s : Settings) (n : UInt64) : Settings :=
  { s with packet := { s.packet with elementCount := n } }

def withMaxLevel (s : Settings) (level : UInt8) : Settings :=
  { s with packet := { s.packet with maxLevel := level } }

def withResponseLevelOffset (s : Settings) (offset : UInt8) : Settings :=
  { s with run := { s.run with responseLevelOffset := offset } }

/-- Sets the timeout from nanoseconds: whole milliseconds, at most as many as a word holds. -/
def withReceiveTimeout (s : Settings) (nanoseconds : Option Nat) : Settings :=
  let timeout := nanoseconds.map fun n => UInt64.ofNat (min (n / 1000000) (UInt64.size - 1))
  { s with run := { s.run with receiveTimeout := timeout } }

end Settings

end OffloadBench.Config
