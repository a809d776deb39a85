import OffloadBench.Buffer
import OffloadBench.Wire.Bytes

/-! # Stimulus pattern

Every element of every stimulus counts up from one: elements by one, levels by the level stride,
sets by the set span. The count is kept in 64 bits and sent in 32, so values repeat once the spans
of all sets together exceed the 32-bit range.
-/
namespace OffloadBench.Stimulus
open Wire

def leastLevelStride : UInt64 := 1000

def saturatingMul (a b : UInt64) : UInt64 :=
  if a.toNat * b.toNat < UInt64.size then a * b else 0xFFFFFFFFFFFFFFFF

structure Pattern where
  levelStride : UInt64
  setSpan : UInt64
  deriving DecidableEq, Repr

namespace Pattern

def ofGeometry (levelCount elementCount : UInt64) : Pattern :=
  let stride := if elementCount < leastLevelStride then leastLevelStride else elementCount
  { levelStride := stride, setSpan := saturatingMul levelCount stride }

/-- How many sets, from the first on, hold no value twice. -/
def distinctSets (p : Pattern) : UInt64 :=
  if p.setSpan = 0 then 0xFFFFFFFFFFFFFFFF else 0x100000000 / p.setSpan

def count (p : Pattern) (set : UInt32) (level : UInt8) (element : UInt64) : UInt64 :=
  set.toUInt64 * p.setSpan + level.toUInt64 * p.levelStride + element + 1

def value (p : Pattern) (set : UInt32) (level : UInt8) (element : UInt64) : UInt32 :=
  (p.count set level element).toUInt32

def payload (p : Pattern) (set : UInt32) (level : UInt8) (elementCount : UInt64) : Payload :=
  (List.range elementCount.toNat).map fun element => p.value set level (UInt64.ofNat element)

theorem length_payload (p : Pattern) (set : UInt32) (level : UInt8) (elementCount : UInt64) :
    (p.payload set level elementCount).length = elementCount.toNat := by
  simp [payload]

end Pattern

/-- The level byte of a level index; indices past the last level byte share it. -/
def levelByte (index : Nat) : UInt8 := UInt8.ofNat (min index 255)

def stimuli (set : UInt32) (levelCount elementCount : UInt64) : List Payload :=
  let pattern := Pattern.ofGeometry levelCount elementCount
  (List.range levelCount.toNat).map fun level => pattern.payload set (levelByte level) elementCount

/-- The stimuli in buffers: one for the levels, and for each of them one for its words. -/
def stimuli? (set : UInt32) (levelCount elementCount : UInt64) :
    Except CapacityError (List Payload) :=
  if Buffer.Fits Buffer.payloadWidth levelCount.toNat ∧
      (levelCount = 0 ∨ Buffer.Fits Buffer.wordWidth elementCount.toNat) then
    .ok (stimuli set levelCount elementCount)
  else .error .overflow

theorem length_stimuli (set : UInt32) (levelCount elementCount : UInt64) :
    (stimuli set levelCount elementCount).length = levelCount.toNat := by
  simp [stimuli]

theorem length_of_mem_stimuli {set : UInt32} {levelCount elementCount : UInt64} {p : Payload}
    (h : p ∈ stimuli set levelCount elementCount) : p.length = elementCount.toNat := by
  obtain ⟨level, _, rfl⟩ := List.mem_map.1 h
  exact Pattern.length_payload ..

end OffloadBench.Stimulus
