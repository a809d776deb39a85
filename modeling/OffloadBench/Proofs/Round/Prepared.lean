import OffloadBench.Proofs.Round.Collection

/-! # Prepared test sets

The frames that valid settings make a device owe, set by set, straight from the stimuli. They do not
depend on the order that was drawn for a set. No owed frame is all zeros, and no two levels of a set
are owed one payload.
-/
namespace OffloadBench.Config.Settings
open Stimulus Wire

/-- The payload owed for a level: each word the sum of the level's own stimulus word and of those of
all lower levels, modulo 2 ^ 32. -/
def owedPayload (s : Settings) (set : UInt32) (level : Nat) : Payload :=
  (List.range s.packet.elementCount.toNat).map fun e =>
    UInt32.ofNat (∑ l ∈ Finset.range (level + 1), (entry (s.inputs set) l e).toNat)

def owedFrame (s : Settings) (set : UInt32) (level : Nat) : Bytes :=
  Packet.toBytes ⟨s.packet.metadata (UInt8.ofNat (s.run.responseLevelOffset.toNat + level)),
    s.owedPayload set level⟩

def levels (s : Settings) : List UInt8 := (List.range s.packet.levelCount).map levelByte

end OffloadBench.Config.Settings

namespace OffloadBench.Round
open Config Draw Stimulus Wire

abbrev prepared (s : Settings) (index : UInt32) (g : Generator) : TestSet :=
  (TestSet.prepare index s.packet g).1

variable {s : Settings}

theorem levelCount_prepared (s : Settings) (index : UInt32) (g : Generator) :
    (prepared s index g).levelCount = s.packet.levelCount := TestSet.levelCount_eq _

theorem levels_prepared (s : Settings) (index : UInt32) (g : Generator) :
    (prepared s index g).levels = s.levels := by
  rw [TestSet.levels, levelCount_prepared]
  rfl

theorem length_of_perm_levels {is : List UInt8} (h : is.Perm s.levels) :
    is.length = s.packet.levelCount := by
  rw [h.length_eq, Settings.levels, List.length_map, List.length_range]

theorem nodup_of_perm_levels {is : List UInt8} (h : is.Perm s.levels) : is.Nodup := by
  rw [← levels_prepared s 0 (.ofSeed 0)] at h
  exact TestSet.nodup_of_perm h

theorem frameLength_prepared (hs : s.Bounded) (index : UInt32) (g : Generator) :
    (prepared s index g).frameLength = 8 + 4 * s.packet.elementCount.toNat := hs.toNat_frameLength

theorem wellPosed_prepared (hs : s.Bounded) (index : UInt32) (g : Generator) :
    (prepared s index g).WellPosed s.run.responseLevelOffset := by
  have hframe := hs.frame_le
  refine ⟨?_, hs.levels_le⟩
  change 8 + 4 * s.packet.elementCount.toNat < 2 ^ 64
  omega

theorem length_owed_prepared (hs : s.Bounded) (index : UInt32) (g : Generator) (offset : UInt8)
    {i : UInt8} (hi : i.toNat < s.packet.levelCount) :
    ((prepared s index g).owed offset i).length = (prepared s index g).frameLength := by
  rw [← levelCount_prepared s index g] at hi
  exact TestSet.length_owed (wellPosed_prepared hs index g).fits offset hi

theorem getD_sums_prepared (index : UInt32) (g : Generator) {l : Nat}
    (hl : l < s.packet.levelCount) :
    (prepared s index g).sums.getD l [] = s.owedPayload index l := by
  have hspec := runningSums?_spec (prepared s index g).length_of_mem
    (prepared s index g).runningSums_inputs
  have hcount : l < (prepared s index g).inputs.length := by
    rw [(prepared s index g).length_inputs]
    exact hl
  rw [getD_eq_map_entry hspec.2.1 (hspec.1.symm ▸ hcount)]
  apply List.map_congr_left
  intro e he
  exact hspec.2.2 l hcount e (List.mem_range.1 he)

theorem owed_prepared (index : UInt32) (g : Generator) {i : UInt8}
    (hi : i.toNat < s.packet.levelCount) :
    (prepared s index g).owed s.run.responseLevelOffset i = s.owedFrame index i.toNat := by
  have hbyte : s.run.responseLevelOffset + i =
      UInt8.ofNat (s.run.responseLevelOffset.toNat + i.toNat) := by
    rw [UInt8.ofNat_add, UInt8.ofNat_toNat, UInt8.ofNat_toNat]
  rw [TestSet.owed, getD_sums_prepared index g hi, hbyte]
  rfl

/-- Two levels of a set are never owed one payload. -/
theorem sums_getD_injective (hs : s.Bounded) (index : UInt32) (g : Generator) {i j : Nat}
    (hi : i < s.packet.levelCount) (hj : j < s.packet.levelCount)
    (h : (prepared s index g).sums.getD i [] = (prepared s index g).sums.getD j []) : i = j := by
  rw [getD_sums_prepared index g hi, getD_sums_prepared index g hj] at h
  refine Settings.eq_of_prefixSums_eq hs index hi hj ?_
  intro e he
  have hword := congrArg (fun p : Payload => p[e]?) h
  simpa [Settings.owedPayload, prefixSum, he] using hword

theorem eq_of_sums_eq (hs : s.Bounded) (index : UInt32) (g : Generator) {i j : UInt8}
    (hi : i.toNat < s.packet.levelCount) (hj : j.toNat < s.packet.levelCount)
    (h : (prepared s index g).sums.getD i.toNat [] = (prepared s index g).sums.getD j.toNat []) :
    i = j :=
  UInt8.toNat_inj.1 (sums_getD_injective hs index g hi hj h)

end OffloadBench.Round
