import Mathlib.Data.Finset.Card
import OffloadBench.Draw.Order
import OffloadBench.Round.LevelSet

/-! # Sets of levels as words

Whatever its words hold, a level set is the set of the levels that it lists, and its size and its being
empty are those of the list. An insertion tells whether its level was missing, adds it and leaves every
other level alone, so after insertions from the empty set the levels are those inserted, each of them
once. Levels below a bound, as many as there are numbers below it, are all of these numbers.
-/
namespace OffloadBench.Round.LevelSet

variable {s : LevelSet} {level other : UInt8}

theorem mem_toList : level ∈ s.toList ↔ s.contains level = true := by
  have hlisted : ∃ n < 256, UInt8.ofNat n = level := ⟨level.toNat, level.toNat_lt, UInt8.ofNat_toNat⟩
  simp [toList, hlisted]

theorem nodup_toList (s : LevelSet) : s.toList.Nodup := by
  refine (List.Nodup.map_on ?_ List.nodup_range).filter _
  intro i hi j hj hij
  have hbytes := congrArg UInt8.toNat hij
  rwa [UInt8.toNat_ofNat_of_lt' (List.mem_range.1 hi),
    UInt8.toNat_ofNat_of_lt' (List.mem_range.1 hj)] at hbytes

theorem length_toList (s : LevelSet) : s.toList.length = s.size := by
  rw [toList, ← List.countP_eq_length_filter, List.countP_map, size_eq_countP]
  rfl

/-- The level at a place of a word. -/
theorem contains_ofNat (s : LevelSet) {word place : Nat} (hword : word < 4) (hplace : place < 64) :
    s.contains (UInt8.ofNat (64 * word + place)) = s.words[word].toBitVec.getLsbD place := by
  have hlevel : (UInt8.ofNat (64 * word + place)).toNat = 64 * word + place :=
    UInt8.toNat_ofNat_of_lt' (by change _ < 256; omega)
  have hhigh : (64 * word + place) / 64 = word := by omega
  have hlow : (64 * word + place) % 64 = place := by omega
  simp only [contains_eq, Fin.getElem_fin, val_wordIndex, hlevel, hhigh, hlow]

/-- All words are zero if no level has its bit set. -/
theorem isEmpty_iff : s.isEmpty = true ↔ ∀ level, s.contains level = false := by
  simp only [isEmpty, Vector.all_eq_true, beq_iff_eq]
  constructor
  · intro hzero level
    have hword := hzero (wordIndex level) (wordIndex level).isLt
    rw [contains_eq, Fin.getElem_fin, hword]
    exact BitVec.getLsbD_zero
  · intro hnone word hword
    rw [← UInt64.toBitVec_inj]
    apply BitVec.eq_of_getLsbD_eq
    intro place hplace
    rw [← contains_ofNat s hword hplace, hnone]
    exact BitVec.getLsbD_zero.symm

theorem add_fst_eq_true_iff : (s.add level).1 = true ↔ s.contains level = false := by
  simp [add]

theorem contains_add_self (s : LevelSet) (level : UInt8) :
    (s.add level).2.contains level = true := by
  simp [add, contains_insert]

theorem contains_add_of_ne (s : LevelSet) (h : other ≠ level) :
    (s.add level).2.contains other = s.contains other := by
  simp [add, contains_insert, h.symm]

def afterInserts (levels : List UInt8) : LevelSet :=
  levels.foldl (fun s level => (s.add level).2) empty

theorem afterInserts_append_singleton (levels : List UInt8) (level : UInt8) :
    afterInserts (levels ++ [level]) = ((afterInserts levels).add level).2 := List.foldl_append

theorem contains_afterInserts (levels : List UInt8) (level : UInt8) :
    (afterInserts levels).contains level = true ↔ level ∈ levels := by
  induction levels using List.reverseRecOn with
  | nil => simp [afterInserts]
  | append_singleton levels last ih =>
    rw [afterInserts_append_singleton]
    by_cases hlast : level = last
    · simp [hlast, contains_add_self]
    · simp [contains_add_of_ne _ hlast, ih, hlast]

theorem toFinset_afterInserts (levels : List UInt8) :
    (afterInserts levels).toList.toFinset = levels.toFinset := by
  ext level
  rw [List.mem_toFinset, List.mem_toFinset, mem_toList, contains_afterInserts]

theorem size_afterInserts (levels : List UInt8) :
    (afterInserts levels).size = levels.toFinset.card := by
  rw [← length_toList, ← toFinset_afterInserts, List.toFinset_card_of_nodup (nodup_toList _)]

/-- Different levels below a bound are all numbers below it if there are enough of them. -/
theorem exists_of_size_eq {n : Nat} (hbelow : ∀ level, s.contains level = true → level.toNat < n)
    (hsize : s.size = n) {i : Nat} (hi : i < n) :
    ∃ level, s.contains level = true ∧ level.toNat = i := by
  have hperm : (s.toList.map UInt8.toNat).Perm (List.range n) := by
    apply Draw.perm_range_of_nodup
    · exact (nodup_toList s).map fun _ _ => UInt8.toNat_inj.1
    · simpa [mem_toList] using hbelow
    · rw [List.length_map, length_toList, hsize]
  obtain ⟨level, hlevel, rfl⟩ := List.mem_map.1 (hperm.mem_iff.2 (List.mem_range.2 hi))
  exact ⟨level, mem_toList.1 hlevel, rfl⟩

/-- After insertions from the empty set the levels are those inserted, each of them once. -/
theorem afterInserts_exact (levels : List UInt8) :
    (∀ level, (afterInserts levels).contains level = true ↔ level ∈ levels) ∧
    (∀ level, ((afterInserts levels).add level).1 = true ↔ level ∉ levels) ∧
    (∀ level, ((afterInserts levels).add level).2.contains level = true ∧
      ∀ other ≠ level,
        ((afterInserts levels).add level).2.contains other = (afterInserts levels).contains other) ∧
    (afterInserts levels).size = levels.toFinset.card ∧
    ((afterInserts levels).isEmpty = true ↔ levels = []) ∧
    ∀ n, (∀ level ∈ levels, level.toNat < n) → (afterInserts levels).size = n →
      ∀ i < n, ∃ level, (afterInserts levels).contains level = true ∧ level.toNat = i := by
  have hcontains := contains_afterInserts levels
  refine ⟨hcontains, fun level => ?_, fun level => ⟨contains_add_self _ _, fun _ => ?_⟩,
    size_afterInserts levels, ?_, fun n hbelow hsize i => ?_⟩
  · rw [add_fst_eq_true_iff, ← hcontains, Bool.not_eq_true]
  · exact contains_add_of_ne _
  · simp only [isEmpty_iff, ← Bool.not_eq_true, hcontains, List.eq_nil_iff_forall_not_mem]
  · exact exists_of_size_eq (fun level hlevel => hbelow level ((hcontains level).1 hlevel)) hsize

/-- Levels in two words, the highest first and the lowest twice. -/
theorem afterInserts_exact_twoWords :
    let levels := (List.range 66).reverse.map UInt8.ofNat ++ [0]
    (∀ level ∈ levels, level.toNat < 66) ∧ (afterInserts levels).size = 66 ∧
      (∃ level, (afterInserts levels).contains level = true ∧ level.toNat = 64) ∧
      ((afterInserts levels).add 66).1 = true ∧ ((afterInserts levels).add 0).1 = false := by
  intro levels
  have hbelow : ∀ level ∈ levels, level.toNat < 66 := by
    have hall : (levels.all fun level => level.toNat < 66) = true := by decide
    simpa using hall
  have hsize : (afterInserts levels).size = 66 := by decide +kernel
  obtain ⟨-, hadd, -, -, -, hall⟩ := afterInserts_exact levels
  refine ⟨hbelow, hsize, hall 66 hbelow hsize 64 (by decide), (hadd 66).2 (by decide), ?_⟩
  rw [← Bool.not_eq_true, hadd, not_not]
  decide

end OffloadBench.Round.LevelSet
