import Mathlib.Data.List.Perm.Subperm
import Mathlib.Data.List.Induction
import OffloadBench.Proofs.Round.Acceptance
import OffloadBench.Proofs.Stimulus.Spread

/-! # Arrivals

A reception is determined by the list of levels that were verified, in their order. The three
records it keeps agree with this list, and it is complete exactly when the list is an order of all
levels of the set.
-/
namespace OffloadBench.Round
open Stimulus

namespace TestSet

def levels (set : TestSet) : List UInt8 := (List.range set.levelCount).map levelByte

variable {set : TestSet}

@[simp] theorem length_levels (set : TestSet) : set.levels.length = set.levelCount := by
  simp [levels]

theorem mem_levels {i : UInt8} : i ∈ set.levels ↔ i.toNat < set.levelCount := by
  have hle := set.levelCount_le
  simp only [levels, List.mem_map, List.mem_range]
  constructor
  · rintro ⟨l, hl, rfl⟩
    rwa [toNat_levelByte (Nat.lt_of_lt_of_le hl hle)]
  · intro hi
    refine ⟨i.toNat, hi, ?_⟩
    apply UInt8.toNat_inj.1
    exact toNat_levelByte i.toNat_lt

theorem nodup_levels (set : TestSet) : set.levels.Nodup := by
  have hle := set.levelCount_le
  refine List.Nodup.map_on ?_ List.nodup_range
  intro i hi j hj h
  have hi' := List.mem_range.1 hi
  have hj' := List.mem_range.1 hj
  rw [← toNat_levelByte (show i < 256 by omega), h, toNat_levelByte (by omega)]

theorem perm_levels {is : List UInt8} (hnodup : is.Nodup)
    (hlt : ∀ i ∈ is, i.toNat < set.levelCount) (hlength : is.length = set.levelCount) :
    is.Perm set.levels := by
  have hsub : is.Subperm set.levels :=
    List.subperm_of_subset hnodup fun i hi => mem_levels.2 (hlt i hi)
  exact hsub.perm_of_length_le (by rw [length_levels, hlength])

theorem lt_of_perm {is : List UInt8} (h : is.Perm set.levels) :
    ∀ i ∈ is, i.toNat < set.levelCount := fun _ hi => mem_levels.1 (h.mem_iff.1 hi)

theorem nodup_of_perm {is : List UInt8} (h : is.Perm set.levels) : is.Nodup :=
  h.nodup_iff.2 set.nodup_levels

/-- A list of different levels that leaves one out is shorter than the set. -/
theorem length_lt_levelCount {is : List UInt8} {i : UInt8} (hnodup : is.Nodup)
    (hlt : ∀ i ∈ is, i.toNat < set.levelCount) (hi : i.toNat < set.levelCount) (hnot : i ∉ is) :
    is.length < set.levelCount := by
  have hsub : (i :: is).Subperm set.levels := by
    refine List.subperm_of_subset (List.nodup_cons.2 ⟨hnot, hnodup⟩) ?_
    intro j hj
    rcases List.mem_cons.1 hj with rfl | hj
    · exact mem_levels.2 hi
    · exact mem_levels.2 (hlt j hj)
  simpa using hsub.length_le

end TestSet

namespace Reception

def ofArrival (is : List UInt8) : Reception := is.foldl record {}

theorem ofArrival_append_singleton (is : List UInt8) (i : UInt8) :
    ofArrival (is ++ [i]) = (ofArrival is).record i := by
  rw [ofArrival, List.foldl_append]
  rfl

@[simp] theorem contains_record (r : Reception) (i j : UInt8) :
    (r.record i).observed.contains j = (r.observed.contains j || i == j) := by
  rw [record_eq]
  split
  · rename_i h
    by_cases hij : i = j
    · subst hij
      simp [h]
    · simp [hij]
  · exact LevelSet.contains_insert r.observed i j

theorem contains_ofArrival (is : List UInt8) (j : UInt8) :
    (ofArrival is).observed.contains j = true ↔ j ∈ is := by
  induction is using List.reverseRecOn with
  | nil => exact iff_of_false (Bool.eq_false_iff.1 (LevelSet.contains_empty j)) List.not_mem_nil
  | append_singleton is i ih =>
    rw [ofArrival_append_singleton, contains_record, Bool.or_eq_true, beq_iff_eq, ih,
      List.mem_append, List.mem_singleton]
    exact or_congr_right eq_comm

theorem contains_ofArrival_eq_false {is : List UInt8} {j : UInt8} :
    (ofArrival is).observed.contains j = false ↔ j ∉ is := by
  rw [← contains_ofArrival, Bool.not_eq_true]

/-- The three records keep step with the list. -/
theorem ofArrival_spec {is : List UInt8} (hnodup : is.Nodup) :
    (ofArrival is).arrival = is ∧ (ofArrival is).received = is.length ∧
      (ofArrival is).observed.size = is.length := by
  induction is using List.reverseRecOn with
  | nil => exact ⟨rfl, rfl, LevelSet.size_empty⟩
  | append_singleton is i ih =>
    obtain ⟨hnodup', -, hdisjoint⟩ := List.nodup_append.1 hnodup
    have hnot : i ∉ is := fun hi => hdisjoint i hi i (List.mem_singleton.2 rfl) rfl
    have hfresh := contains_ofArrival_eq_false.2 hnot
    obtain ⟨harrival, hreceived, hsize⟩ := ih hnodup'
    rw [ofArrival_append_singleton, record_eq, if_neg (by rw [hfresh]; exact Bool.false_ne_true)]
    refine ⟨by rw [harrival], ?_, ?_⟩
    · rw [hreceived, List.length_append, List.length_singleton]
    · rw [LevelSet.size_insert hfresh, hsize, List.length_append, List.length_singleton]

theorem isComplete_ofArrival {set : TestSet} {is : List UInt8} (hnodup : is.Nodup) :
    (ofArrival is).isComplete set = true ↔ is.length = set.levelCount := by
  rw [isComplete, (ofArrival_spec hnodup).2.2, beq_iff_eq]

theorem not_isComplete_of_not_mem {set : TestSet} {is : List UInt8} {i : UInt8}
    (hnodup : is.Nodup) (hlt : ∀ i ∈ is, i.toNat < set.levelCount) (hi : i.toNat < set.levelCount)
    (hnot : i ∉ is) : (ofArrival is).isComplete set = false := by
  have hlength := TestSet.length_lt_levelCount hnodup hlt hi hnot
  rw [← Bool.not_eq_true, isComplete_ofArrival hnodup]
  omega

end Reception

end OffloadBench.Round
