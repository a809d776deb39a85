import OffloadBench.Device.Identifier

/-! # Engine settings

How the simulated engine answers, and which faults it injects into its answers. A fault without a
round is injected into every round.
-/
namespace OffloadBench.Engine
open Device

structure Corruption where
  level : UInt8
  offset : Nat
  mask : UInt8
  deriving DecidableEq, Repr

/-- A mask of zero would flip nothing, so it flips every bit. -/
def Corruption.bits (c : Corruption) : UInt8 := if c.mask = 0 then 0xFF else c.mask

structure Truncation where
  level : UInt8
  bytes : Nat
  deriving DecidableEq, Repr

structure Faults where
  duplicate : Option UInt8 := none
  corrupt : Option Corruption := none
  truncate : Option Truncation := none
  drop : Option UInt8 := none
  empty : Option UInt8 := none
  /-- Sums are taken from the highest level down. -/
  reverse : Bool := false
  round : Option UInt64 := none
  deriving DecidableEq, Repr

namespace Faults

def isEnabled (f : Faults) : Bool :=
  f.duplicate.isSome || f.corrupt.isSome || f.truncate.isSome || f.drop.isSome ||
    f.empty.isSome || f.reverse

def isActive (f : Faults) (round : Nat) : Bool :=
  f.isEnabled && f.round.all fun r => r.toNat == round

theorem isActive_eq_false {f : Faults} (h : f.isEnabled = false) (round : Nat) :
    f.isActive round = false := by
  rw [isActive, h, Bool.false_and]

end Faults

structure EngineSettings where
  seed : UInt64 := 0x5EED0FF10AD0
  device : Identifier := .ofRaw 0x020000000001
  /-- Added to the level byte of every response. -/
  levelOffset : UInt8 := 0
  /-- Responses leave in a random order, and otherwise in the order of their levels. -/
  reorder : Bool := true
  faults : Faults := {}
  deriving DecidableEq, Repr

end OffloadBench.Engine
