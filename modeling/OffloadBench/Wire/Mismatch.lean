import OffloadBench.Wire.Frame

/-! # Mismatches

The first byte in which two frames differ, with the metadata field or the payload element that owns
it. Only the part that both frames have is compared.
-/
namespace OffloadBench.Wire

inductive MetadataField
  | collectiveId
  | collectiveType
  | opCode
  | reserved
  | maxLevel
  | level
  deriving DecidableEq, Repr

namespace MetadataField

def name : MetadataField → String
  | .collectiveId => "collective_id"
  | .collectiveType => "collective_type"
  | .opCode => "op_code"
  | .reserved => "reserved"
  | .maxLevel => "max_level"
  | .level => "level"

def ofOffset : Nat → MetadataField
  | 0 | 1 => .collectiveId
  | 2 => .collectiveType
  | 3 => .opCode
  | 4 | 5 => .reserved
  | 6 => .maxLevel
  | _ => .level

end MetadataField

inductive Region
  | metadata (field : MetadataField)
  | payload (element byteInElement : Nat) (expectedElement actualElement : UInt32)
  deriving DecidableEq, Repr

structure Mismatch where
  offset : Nat
  expected : UInt8
  actual : UInt8
  region : Region
  deriving DecidableEq, Repr

def wordAt (frame : Bytes) (start : Nat) : UInt32 :=
  let tail := frame.drop start
  wordOf (tail.getD 0 0) (tail.getD 1 0) (tail.getD 2 0) (tail.getD 3 0)

/-- The least offset, counted from the given one, at which two byte strings differ, and the bytes
that stand there. -/
def firstDifference (offset : Nat) : Bytes → Bytes → Option (Nat × UInt8 × UInt8)
  | e :: expected, a :: actual =>
    if e = a then firstDifference (offset + 1) expected actual else some (offset, e, a)
  | _, _ => none

def Region.ofOffset (expected actual : Bytes) (offset : Nat) : Region :=
  if offset < 8 then .metadata (.ofOffset offset)
  else
    let element := (offset - 8) / 4
    let start := 8 + element * 4
    .payload element ((offset - 8) % 4) (wordAt expected start) (wordAt actual start)

def firstMismatch (expected actual : Bytes) : Option Mismatch :=
  (firstDifference 0 expected actual).map fun (offset, e, a) =>
    ⟨offset, e, a, Region.ofOffset expected actual offset⟩

namespace Mismatch

def byteText (byte : UInt8) : String := "0x" ++ Text.hexPadded 2 byte.toNat

def wordText (word : UInt32) : String := "0x" ++ Text.hexPadded 8 word.toNat

def regionText : Region → String
  | .metadata field => s!"metadata {field.name}"
  | .payload element byteInElement expected actual =>
    s!"element {element}, byte {byteInElement}: expected {wordText expected}, got {wordText actual}"

def message (m : Mismatch) : String :=
  s!"byte {m.offset}: expected {byteText m.expected}, got {byteText m.actual} " ++
    s!"({regionText m.region})"

end Mismatch

end OffloadBench.Wire
