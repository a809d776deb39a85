/-! # Level sets

A set of level bytes in four words, one bit for each of the 256 levels there can be. The two high bits
of a level choose its word, the six low bits its place there.
-/
namespace OffloadBench.Round

structure LevelSet where
  words : Vector UInt64 4
  deriving DecidableEq, Repr

namespace LevelSet

def empty : LevelSet := ⟨.replicate 4 0⟩

def wordIndex (level : UInt8) : Fin 4 :=
  ⟨(level >>> 6).toNat, by
    have hlt := level.toNat_lt
    have hquarter : (level >>> 6).toNat = level.toNat / 2 ^ 6 := Nat.shiftRight_eq_div_pow ..
    omega⟩

def bit (level : UInt8) : UInt64 := 1 <<< (level &&& 63).toUInt64

def contains (s : LevelSet) (level : UInt8) : Bool := s.words[wordIndex level] &&& bit level != 0

def insert (s : LevelSet) (level : UInt8) : LevelSet :=
  ⟨s.words.set (wordIndex level) (s.words[wordIndex level] ||| bit level)⟩

def add (s : LevelSet) (level : UInt8) : Bool × LevelSet := (!s.contains level, s.insert level)

def size (s : LevelSet) : Nat :=
  s.words.toList.foldr (fun word n => word.toBitVec.cpop.toNat + n) 0

def isEmpty (s : LevelSet) : Bool := s.words.all (· == 0)

def toList (s : LevelSet) : List UInt8 := ((List.range 256).map UInt8.ofNat).filter s.contains

theorem val_wordIndex (level : UInt8) : (wordIndex level : Nat) = level.toNat / 64 :=
  Nat.shiftRight_eq_div_pow ..

theorem toBitVec_bit (level : UInt8) :
    (bit level).toBitVec = BitVec.twoPow 64 (level.toNat % 64) := by
  have hplace : (level &&& 63).toUInt64.toNat = level.toNat % 64 :=
    Nat.and_two_pow_sub_one_eq_mod _ 6
  have hshift : (level &&& 63).toUInt64.toBitVec.toNat % 64 = level.toNat % 64 := by
    rw [UInt64.toNat_toBitVec, hplace, Nat.mod_mod]
  rw [bit, UInt64.toBitVec_shiftLeft, BitVec.shiftLeft_eq', BitVec.toNat_umod]
  exact congrArg ((1 : BitVec 64) <<< ·) hshift

theorem contains_eq (s : LevelSet) (level : UInt8) :
    s.contains level = s.words[wordIndex level].toBitVec.getLsbD (level.toNat % 64) := by
  have hplace : level.toNat % 64 < 64 := Nat.mod_lt _ (by decide)
  have hbit : BitVec.twoPow 64 (level.toNat % 64) ≠ 0#64 := by
    intro h
    have hclear := congrArg (·.getLsbD (level.toNat % 64)) h
    simp [hplace] at hclear
  rw [contains, Bool.eq_iff_iff, bne_iff_ne, ne_eq, ← UInt64.toBitVec_inj, UInt64.toBitVec_and,
    toBitVec_bit, BitVec.and_twoPow]
  split <;> simp_all

@[simp] theorem contains_empty (level : UInt8) : empty.contains level = false := by
  simp [contains, empty]

theorem contains_insert (s : LevelSet) (level other : UInt8) :
    (s.insert level).contains other = (s.contains other || level == other) := by
  have hsame : level = other ↔
      level.toNat / 64 = other.toNat / 64 ∧ level.toNat % 64 = other.toNat % 64 := by
    rw [← UInt8.toNat_inj]
    omega
  simp only [contains_eq, insert, Fin.getElem_fin, Vector.getElem_set, val_wordIndex]
  by_cases hword : level.toNat / 64 = other.toNat / 64
  · have hplace : level.toNat % 64 < 64 := Nat.mod_lt _ (by decide)
    have hequal : (level == other) = decide (level.toNat % 64 = other.toNat % 64) := by
      rw [Bool.eq_iff_iff, beq_iff_eq, decide_eq_true_iff, hsame, and_iff_right hword]
    simp [hword, toBitVec_bit, BitVec.getLsbD_twoPow, hplace, hequal]
  · simp [hword, hsame]

/-- The set bits of a word, counted place by place. -/
theorem toNat_cpop_eq_countP (word : BitVec 64) :
    word.cpop.toNat = (List.range 64).countP word.getLsbD := by
  have hprefix : ∀ n, word.cpopNatRec n 0 = (List.range n).countP word.getLsbD := by
    intro n
    induction n with
    | zero => rfl
    | succ n ih =>
      rw [BitVec.cpopNatRec_succ, BitVec.cpopNatRec_add, ih, List.range_succ, List.countP_append]
      cases hbit : word.getLsbD n <;> simp [hbit]
  rw [BitVec.toNat_cpop, hprefix]

/-- Place by place through one word after the other. -/
theorem foldr_cpop_eq_countP (words : List UInt64) :
    words.foldr (fun word n => word.toBitVec.cpop.toNat + n) 0 =
      (List.range (64 * words.length)).countP fun n =>
        (words.getD (n / 64) 0).toBitVec.getLsbD (n % 64) := by
  induction words with
  | nil => rfl
  | cons word words ih =>
    have hfirst : (List.range 64).countP (fun n =>
        ((word :: words).getD (n / 64) 0).toBitVec.getLsbD (n % 64)) =
          (List.range 64).countP word.toBitVec.getLsbD := by
      apply List.countP_congr
      intro n hn
      have hlt := List.mem_range.1 hn
      simp [Nat.div_eq_of_lt hlt, Nat.mod_eq_of_lt hlt]
    have hrest : ∀ n, (64 + n) / 64 = n / 64 + 1 ∧ (64 + n) % 64 = n % 64 := by omega
    rw [List.length_cons, Nat.mul_succ, Nat.add_comm, List.range_add, List.countP_append,
      List.countP_map, List.foldr_cons, ih, toNat_cpop_eq_countP, hfirst]
    simp only [Function.comp_def, hrest, List.getD_cons_succ]

theorem size_eq_countP (s : LevelSet) :
    s.size = (List.range 256).countP fun n => s.contains (UInt8.ofNat n) := by
  rw [size, foldr_cpop_eq_countP, Vector.length_toList]
  apply List.countP_congr
  intro n hn
  have hlevel : (UInt8.ofNat n).toNat = n := UInt8.toNat_ofNat_of_lt' (List.mem_range.1 hn)
  have hword : n / 64 < 4 := by have := List.mem_range.1 hn; omega
  simp [contains_eq, val_wordIndex, hlevel, hword]

/-- One more number below the bound satisfies a test that is widened by that number. -/
theorem countP_range_or {p : Nat → Bool} {k n : Nat} (hk : k < n) (hp : p k = false) :
    (List.range n).countP (fun i => p i || k == i) = (List.range n).countP p + 1 := by
  induction n with
  | zero => omega
  | succ n ih =>
    rw [List.range_succ, List.countP_append, List.countP_append]
    by_cases h : k = n
    · subst h
      have hsame : (List.range k).countP (fun i => p i || k == i) = (List.range k).countP p := by
        apply List.countP_congr
        intro i hi
        have : k ≠ i := by have := List.mem_range.1 hi; omega
        simp [this]
      simp [hsame, hp]
    · rw [ih (by omega)]
      simp [h]
      omega

theorem size_insert {s : LevelSet} {level : UInt8} (h : s.contains level = false) :
    (s.insert level).size = s.size + 1 := by
  have hlevel : s.contains (UInt8.ofNat level.toNat) = false := by rwa [UInt8.ofNat_toNat]
  rw [size_eq_countP, size_eq_countP,
    ← countP_range_or (p := fun n => s.contains (UInt8.ofNat n)) level.toNat_lt hlevel]
  apply List.countP_congr
  intro n hn
  have hother : (UInt8.ofNat n).toNat = n := UInt8.toNat_ofNat_of_lt' (List.mem_range.1 hn)
  rw [contains_insert]
  simp [← UInt8.toNat_inj, hother]

@[simp] theorem size_empty : empty.size = 0 := by
  rw [size_eq_countP]
  simp

theorem size_le (s : LevelSet) : s.size ≤ 256 := by
  have hle := List.countP_le_length (p := fun n => s.contains (UInt8.ofNat n)) (l := List.range 256)
  rwa [← size_eq_countP, List.length_range] at hle

end LevelSet

end OffloadBench.Round
