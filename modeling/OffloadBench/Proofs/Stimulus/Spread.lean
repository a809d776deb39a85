import Mathlib.Algebra.BigOperators.ModEq
import Mathlib.RingTheory.Coprime.Lemmas
import OffloadBench.Proofs.Config.Bounds
import OffloadBench.Proofs.Stimulus.PrefixSum

/-! # Spread of stimuli and of their sums

For valid settings the count behind a stimulus word is known exactly, and so are the sums of counts
over levels. Sums for different levels differ in some word, whatever the set: two neighbouring
elements tell the number of summands, and where there is one element only, the stride is even and
every sum is an odd multiple of that number.
-/
namespace OffloadBench.Stimulus
open Wire

theorem toNat_value (p : Pattern) (set : UInt32) (level : UInt8) (element : UInt64) :
    (p.value set level element).toNat =
      (set.toNat * p.setSpan.toNat + level.toNat * p.levelStride.toNat + element.toNat + 1) %
        2 ^ 32 := by
  simp only [Pattern.value, Pattern.count, UInt64.toNat_toUInt32, UInt64.toNat_add, UInt64.toNat_mul,
    UInt32.toNat_toUInt64, UInt8.toNat_toUInt64, UInt64.reduceToNat]
  generalize set.toNat * p.setSpan.toNat = a
  generalize level.toNat * p.levelStride.toNat = b
  omega

theorem entry_stimuli (set : UInt32) {levels elements : UInt64} {l e : Nat}
    (hl : l < levels.toNat) (he : e < elements.toNat) :
    entry (stimuli set levels elements) l e =
      (Pattern.ofGeometry levels elements).value set (levelByte l) (UInt64.ofNat e) := by
  simp [entry, stimuli, Pattern.payload, hl, he]

theorem toNat_levelByte {l : Nat} (h : l < 256) : (levelByte l).toNat = l := by
  rw [levelByte, UInt8.toNat_ofNat']
  omega

theorem map_toNat_levelByte {n : Nat} (h : n ≤ 256) :
    ((List.range n).map levelByte).map UInt8.toNat = List.range n := by
  rw [List.map_map]
  refine (List.map_congr_left ?_).trans (List.map_id _)
  intro l hl
  exact toNat_levelByte (Nat.lt_of_lt_of_le (List.mem_range.1 hl) h)

end OffloadBench.Stimulus

namespace OffloadBench.Config.Settings
open Stimulus Wire

def inputs (s : Settings) (set : UInt32) : List Payload :=
  stimuli set (UInt64.ofNat s.packet.levelCount) s.packet.elementCount

def count (s : Settings) (set : UInt32) (level element : Nat) : Nat :=
  set.toNat * s.span + level * s.stride + element + 1

def countSum (s : Settings) (set : UInt32) (level element : Nat) : Nat :=
  ∑ l ∈ Finset.range (level + 1), s.count set l element

/-- The sum of the counts behind the words of an element over a set of levels, without reduction. -/
def countOver (s : Settings) (set : UInt32) (levels : Finset Nat) (element : Nat) : Nat :=
  ∑ l ∈ levels, s.count set l element

variable {s : Settings}

theorem length_inputs (s : Settings) (set : UInt32) :
    (s.inputs set).length = s.packet.levelCount := by
  rw [inputs, length_stimuli, toNat_levelCount]

theorem toNat_entry_inputs (hs : s.Bounded) (set : UInt32) {l e : Nat}
    (hl : l < s.packet.levelCount) (he : e < s.packet.elementCount.toNat) :
    (entry (s.inputs set) l e).toNat = s.count set l e % 2 ^ 32 := by
  have hword : entry (s.inputs set) l e = s.pattern.value set (levelByte l) (UInt64.ofNat e) :=
    entry_stimuli set ((toNat_levelCount s.packet).symm ▸ hl) he
  have hspan : s.pattern.setSpan.toNat = s.span := by
    have hsets := Nat.le_mul_of_pos_left s.span hs.sets_pos
    have hle := hs.sets_le
    rw [toNat_pattern_setSpan]
    omega
  have helement : (UInt64.ofNat e).toNat = e := by
    have := s.packet.elementCount.toNat_lt
    rw [UInt64.toNat_ofNat']
    omega
  have hlevel : (levelByte l).toNat = l :=
    toNat_levelByte (Nat.lt_of_lt_of_le hl s.packet.levelCount_le)
  rw [hword, toNat_value, hspan, toNat_pattern_levelStride, helement, hlevel]
  rfl

theorem sum_entry_modEq (hs : s.Bounded) (set : UInt32) {levels : Finset Nat} {e : Nat}
    (hlevels : ∀ l ∈ levels, l < s.packet.levelCount) (he : e < s.packet.elementCount.toNat) :
    ∑ l ∈ levels, (entry (s.inputs set) l e).toNat ≡ s.countOver set levels e [MOD 2 ^ 32] := by
  apply Nat.ModEq.sum
  intro l hl
  rw [toNat_entry_inputs hs set (hlevels l hl) he]
  exact Nat.mod_modEq _ _

theorem prefixSum_modEq (hs : s.Bounded) (set : UInt32) {l e : Nat} (hl : l < s.packet.levelCount)
    (he : e < s.packet.elementCount.toNat) :
    prefixSum (s.inputs set) l e ≡ s.countSum set l e [MOD 2 ^ 32] := by
  refine sum_entry_modEq hs set ?_ he
  intro i hi
  have := Finset.mem_range.1 hi
  omega

/-- What the levels share is counted as often as there are levels; the strides add up. -/
theorem countOver_eq (s : Settings) (set : UInt32) (levels : Finset Nat) (e : Nat) :
    s.countOver set levels e =
      levels.card * (set.toNat * s.span + e + 1) + (∑ l ∈ levels, l) * s.stride := by
  have hcount : ∀ l, s.count set l e = (set.toNat * s.span + e + 1) + l * s.stride := by
    intro l
    rw [count]
    omega
  rw [countOver, Finset.sum_congr rfl fun l _ => hcount l, Finset.sum_add_distrib, Finset.sum_const,
    smul_eq_mul, Finset.sum_mul]

theorem countOver_element_succ (s : Settings) (set : UInt32) (levels : Finset Nat) (e : Nat) :
    s.countOver set levels (e + 1) = s.countOver set levels e + levels.card := by
  rw [countOver_eq, countOver_eq]
  ring

/-- The counts of a level form an arithmetic progression over the levels. -/
theorem two_mul_countSum (s : Settings) (set : UInt32) (l e : Nat) :
    2 * s.countSum set l e = (l + 1) * (2 * (set.toNat * s.span + e + 1) + l * s.stride) := by
  have hgauss : (∑ i ∈ Finset.range (l + 1), i) * 2 = (l + 1) * l := Finset.sum_range_id_mul_two _
  change 2 * s.countOver set (Finset.range (l + 1)) e = _
  rw [countOver_eq, Finset.card_range]
  calc 2 * ((l + 1) * (set.toNat * s.span + e + 1) + (∑ i ∈ Finset.range (l + 1), i) * s.stride)
      = 2 * (l + 1) * (set.toNat * s.span + e + 1) +
          (∑ i ∈ Finset.range (l + 1), i) * 2 * s.stride := by ring
    _ = (l + 1) * (2 * (set.toNat * s.span + e + 1) + l * s.stride) := by rw [hgauss]; ring

theorem countSum_element_succ (s : Settings) (set : UInt32) (l e : Nat) :
    s.countSum set l (e + 1) = s.countSum set l e + (l + 1) := by
  have hnext := s.countOver_element_succ set (Finset.range (l + 1)) e
  rwa [Finset.card_range] at hnext

/-- With one element to a level, a difference of sums is an odd multiple of the distance. -/
theorem countSum_sub_of_one (hone : s.packet.elementCount.toNat = 1) (set : UInt32) (i j : Nat) :
    ∃ m : ℤ, (s.countSum set i 0 : ℤ) - s.countSum set j 0 = ((i : ℤ) - j) * (2 * m + 1) := by
  have hstride : s.stride = 1000 := by rw [stride, hone]; rfl
  have hi := congrArg (Nat.cast : ℕ → ℤ) (s.two_mul_countSum set i 0)
  have hj := congrArg (Nat.cast : ℕ → ℤ) (s.two_mul_countSum set j 0)
  rw [span, hstride] at hi hj
  push_cast at hi hj
  refine ⟨500 * set.toNat * s.packet.levelCount + 250 * (i + j + 1), ?_⟩
  have htwo : 2 * ((s.countSum set i 0 : ℤ) - s.countSum set j 0) =
      2 * (((i : ℤ) - j) *
        (2 * (500 * set.toNat * s.packet.levelCount + 250 * (i + j + 1)) + 1)) := by
    rw [mul_sub, hi, hj]
    ring
  exact mul_left_cancel₀ two_ne_zero htwo

theorem eq_of_two_pow_dvd_sub {i j : Nat} (hi : i < 256) (hj : j < 256)
    (h : (2 ^ 32 : ℤ) ∣ (i : ℤ) - j) : i = j := by
  obtain ⟨c, hc⟩ := h
  omega

theorem eq_of_prefixSums_eq (hs : s.Bounded) (set : UInt32) {i j : Nat}
    (hi : i < s.packet.levelCount) (hj : j < s.packet.levelCount)
    (h : ∀ e < s.packet.elementCount.toNat,
      UInt32.ofNat (prefixSum (s.inputs set) i e) = UInt32.ofNat (prefixSum (s.inputs set) j e)) :
    i = j := by
  have hbound := s.packet.levelCount_le
  have hdvd : ∀ e < s.packet.elementCount.toNat,
      (2 ^ 32 : ℤ) ∣ (s.countSum set i e : ℤ) - s.countSum set j e := by
    intro e he
    have hmod : prefixSum (s.inputs set) i e ≡ prefixSum (s.inputs set) j e [MOD 2 ^ 32] := by
      have hword := congrArg UInt32.toNat (h e he)
      rwa [UInt32.toNat_ofNat', UInt32.toNat_ofNat'] at hword
    have hcount := ((prefixSum_modEq hs set hj he).symm.trans hmod.symm).trans
      (prefixSum_modEq hs set hi he)
    have := Nat.modEq_iff_dvd.1 hcount
    push_cast at this
    exact this
  have hpos := hs.elements_pos
  apply eq_of_two_pow_dvd_sub (by omega) (by omega)
  by_cases hone : s.packet.elementCount.toNat = 1
  · obtain ⟨m, hm⟩ := countSum_sub_of_one hone set i j
    have hodd : IsCoprime (2 : ℤ) (2 * m + 1) := ⟨-m, 1, by ring⟩
    exact hodd.pow_left.dvd_of_dvd_mul_right (hm ▸ hdvd 0 (by omega))
  · have hdiff := dvd_sub (hdvd 1 (by omega)) (hdvd 0 (by omega))
    have hi1 := s.countSum_element_succ set i 0
    have hj1 := s.countSum_element_succ set j 0
    rw [Nat.zero_add] at hi1 hj1
    rw [hi1, hj1] at hdiff
    push_cast at hdiff
    ring_nf at hdiff ⊢
    exact hdiff

theorem entry_first_ne_last (hs : s.Bounded) (set : UInt32) (hlevels : 1 < s.packet.levelCount) :
    entry (s.inputs set) 0 0 ≠ entry (s.inputs set) (s.packet.levelCount - 1) 0 := by
  intro heq
  have hfirst := toNat_entry_inputs hs set (l := 0) (e := 0) (by omega) hs.elements_pos
  have hlast := toNat_entry_inputs hs set (l := s.packet.levelCount - 1) (e := 0) (by omega)
    hs.elements_pos
  have hsets := Nat.le_mul_of_pos_left s.span hs.sets_pos
  have hle := hs.sets_le
  have hstride : 1000 ≤ s.stride := Nat.le_max_left _ _
  have hspan : s.span = (s.packet.levelCount - 1) * s.stride + s.stride := by
    rw [← Nat.succ_mul, span]
    congr 1
  have hpos : s.stride ≤ (s.packet.levelCount - 1) * s.stride :=
    Nat.le_mul_of_pos_left _ (by omega)
  rw [heq, hlast, count, count] at hfirst
  omega

end OffloadBench.Config.Settings
