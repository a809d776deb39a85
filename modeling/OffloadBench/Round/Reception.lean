import OffloadBench.Fault
import OffloadBench.Round.LevelSet
import OffloadBench.Round.TestSet

/-! # Reception

The responses of a round may come in any order. Each is paired with its level by the level byte it
reports, and is verified only if it is the expected frame of a level not verified before. A frame
that is refused leaves the reception as it was.
-/
namespace OffloadBench.Round
open Wire

structure Reception where
  observed : LevelSet := .empty
  received : Nat := 0
  /-- Level indices in the order of their responses. -/
  arrival : List UInt8 := []
  deriving DecidableEq, Repr

namespace Reception

def record (r : Reception) (index : UInt8) : Reception :=
  match r.observed.add index with
  | (true, observed) =>
    { observed
      received := r.received + 1
      arrival := r.arrival ++ [index] }
  | (false, _) => r

def isComplete (r : Reception) (set : TestSet) : Bool := r.observed.size == set.levelCount

theorem record_eq (r : Reception) (index : UInt8) :
    r.record index =
      if r.observed.contains index then r
      else ⟨r.observed.insert index, r.received + 1, r.arrival ++ [index]⟩ := by
  unfold record LevelSet.add
  cases r.observed.contains index <;> rfl

end Reception

structure Verified where
  reported : UInt8
  index : UInt8
  deriving DecidableEq, Repr

def levelIndex? (set : TestSet) (offset reported : UInt8) : Option UInt8 :=
  if offset ≤ reported ∧ reported.toNat - offset.toNat < set.levelCount then
    some (reported - offset)
  else none

/-- The greatest level byte that belongs to the set, as far as there are bytes. -/
def lastLevel (set : TestSet) (offset : UInt8) : UInt8 :=
  UInt8.ofNat (min 255 (offset.toNat + (set.levelCount - 1)))

def compareFrame (set : TestSet) (reported index : UInt8) (frame : Bytes) :
    Except Fault Verified :=
  match set.expectedFrame reported index.toNat with
  | .error e => .error (.malformed set.index .receiving e)
  | .ok expected =>
    match firstMismatch expected frame with
    | some mismatch => .error (.dataMismatch set.index reported mismatch)
    | none => .ok ⟨reported, index⟩

/-- Examines a response: its length, its level, whether the level is new, and then every byte. -/
def examine (set : TestSet) (offset : UInt8) (r : Reception) (frame : Bytes) :
    Except Fault Verified :=
  if frame.isEmpty then
    .error (.transport set.index .receiving "receive returned a non-positive length" none)
  else if frame.length ≠ set.frameLength then
    .error (.length set.index set.frameLength frame.length)
  else
    match set.layout.decode frame with
    | .error e => .error (.malformed set.index .receiving e)
    | .ok packet =>
      let reported := packet.metadata.level
      match levelIndex? set offset reported with
      | none => .error (.unknownLevel set.index reported offset (lastLevel set offset))
      | some index =>
        if r.observed.contains index then .error (.duplicateResponse set.index reported)
        else compareFrame set reported index frame

def accept (set : TestSet) (offset : UInt8) (r : Reception) (frame : Bytes) :
    Except Fault Verified × Reception :=
  match examine set offset r frame with
  | .ok verified => (.ok verified, r.record verified.index)
  | .error fault => (.error fault, r)

/-- What is verified is a new level, the one that the level byte names. -/
theorem level_of_examine_ok {set : TestSet} {offset : UInt8} {r : Reception} {frame : Bytes}
    {v : Verified} (h : examine set offset r frame = .ok v) :
    levelIndex? set offset v.reported = some v.index ∧ r.observed.contains v.index = false := by
  unfold examine at h
  split at h
  · cases h
  split at h
  · cases h
  split at h
  · cases h
  dsimp only at h
  split at h
  · cases h
  rename_i index hindex
  split at h
  · cases h
  rename_i hfresh
  unfold compareFrame at h
  split at h
  · cases h
  split at h
  · cases h
  · cases h
    exact ⟨hindex, by simpa using hfresh⟩

theorem fresh_of_examine_ok {set : TestSet} {offset : UInt8} {r : Reception} {frame : Bytes}
    {v : Verified} (h : examine set offset r frame = .ok v) :
    r.observed.contains v.index = false := (level_of_examine_ok h).2

theorem accept_eq_ok {set : TestSet} {offset : UInt8} {r r' : Reception} {frame : Bytes}
    {v : Verified} (h : accept set offset r frame = (.ok v, r')) :
    examine set offset r frame = .ok v ∧ r' = r.record v.index := by
  unfold accept at h
  split at h
  · rename_i w hw
    cases h
    exact ⟨hw, rfl⟩
  · cases h

theorem accept_eq_error {set : TestSet} {offset : UInt8} {r r' : Reception} {frame : Bytes}
    {fault : Fault} (h : accept set offset r frame = (.error fault, r')) :
    examine set offset r frame = .error fault ∧ r' = r := by
  unfold accept at h
  split at h
  · cases h
  · rename_i hfault
    cases h
    exact ⟨hfault, rfl⟩

theorem record_of_examine_ok {set : TestSet} {offset : UInt8} {r : Reception} {frame : Bytes}
    {v : Verified} (h : examine set offset r frame = .ok v) :
    (r.record v.index).received = r.received + 1 ∧
      (r.record v.index).observed.size = r.observed.size + 1 := by
  have hfresh := fresh_of_examine_ok h
  simp [Reception.record_eq, hfresh, LevelSet.size_insert hfresh]

theorem size_of_accept_ok {set : TestSet} {offset : UInt8} {r r' : Reception} {frame : Bytes}
    {v : Verified} (h : accept set offset r frame = (.ok v, r')) :
    r'.observed.size = r.observed.size + 1 := by
  obtain ⟨hv, rfl⟩ := accept_eq_ok h
  exact (record_of_examine_ok hv).2

end OffloadBench.Round
