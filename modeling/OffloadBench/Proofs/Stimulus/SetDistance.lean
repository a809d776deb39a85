import Mathlib.NumberTheory.Padics.PadicVal.Basic
import OffloadBench.Proofs.Stimulus.Spread

/-! # Sums of a level in different sets

From one set to the next every count grows by the set span, so the running sum of a level grows by that
span once for each level summed. Reduced to words, the sums of two sets therefore agree in every word
or in none. Sets that are less than eight apart never agree: their distance, the levels summed and the
span have too few factors of two.
-/
namespace OffloadBench.Config.Settings
open Stimulus Wire

variable {s : Settings} {a b : UInt32} {l e : Nat}

def SumsMeet (s : Settings) (a b : UInt32) (level : Nat) : Prop :=
  (2 ^ 32 : ℤ) ∣ ((a.toNat : ℤ) - b.toNat) * (level + 1) * s.packet.levelCount *
    (max 1000 s.packet.elementCount.toNat : Nat)

theorem countSum_sub (s : Settings) (a b : UInt32) (l e : Nat) :
    (s.countSum a l e : ℤ) - s.countSum b l e =
      ((a.toNat : ℤ) - b.toNat) * (l + 1) * s.packet.levelCount *
        (max 1000 s.packet.elementCount.toNat : Nat) := by
  have hcount : ∀ set : UInt32, (s.countSum set l e : ℤ) =
      (l + 1) * (set.toNat * (s.packet.levelCount * s.stride) + e + 1) +
        (∑ k ∈ Finset.range (l + 1), k : Nat) * s.stride := by
    intro set
    have h := congrArg (Nat.cast : ℕ → ℤ) (s.countOver_eq set (Finset.range (l + 1)) e)
    rw [Finset.card_range, span] at h
    push_cast at h ⊢
    exact h
  rw [hcount, hcount, ← stride]
  ring

theorem prefixSum_modEq_iff (hs : s.Bounded) (hl : l < s.packet.levelCount)
    (he : e < s.packet.elementCount.toNat) :
    prefixSum (s.inputs a) l e ≡ prefixSum (s.inputs b) l e [MOD 2 ^ 32] ↔ s.SumsMeet a b l := by
  have ha := prefixSum_modEq hs a hl he
  have hb := prefixSum_modEq hs b hl he
  have hcounts : s.countSum b l e ≡ s.countSum a l e [MOD 2 ^ 32] ↔ s.SumsMeet a b l := by
    rw [Nat.modEq_iff_dvd, countSum_sub, SumsMeet]
    norm_cast
  rw [← hcounts]
  constructor
  · intro h
    exact hb.symm.trans (h.symm.trans ha)
  · intro h
    exact ha.trans (h.symm.trans hb.symm)

/-- A number has fewer factors of two than it has binary digits. -/
theorem padicValNat_two_lt {n k : Nat} (hn : n ≠ 0) (h : n < 2 ^ k) : padicValNat 2 n < k :=
  (padicValNat_le_nat_log n).trans_lt (Nat.log_lt_of_lt_pow hn h)

/-- In sets less than eight apart the sums of a level differ. -/
theorem not_sumsMeet_of_near (hs : s.Bounded) (hl : l < s.packet.levelCount) (hne : a ≠ b)
    (hnear : |(a.toNat : ℤ) - b.toNat| < 8) : ¬ s.SumsMeet a b l := by
  have hbound := s.packet.levelCount_le
  have hstride := hs.stride_le
  rw [Int.abs_eq_natAbs] at hnear
  have hdistance : ((a.toNat : ℤ) - b.toNat).natAbs ≠ 0 := by
    intro hzero
    exact hne (UInt32.toNat_inj.1 (by omega))
  have hlevels : s.packet.levelCount ≠ 0 := s.packet.levelCount_pos.ne'
  have hstride_pos : s.stride ≠ 0 := by
    rw [stride]
    omega
  have htwos_distance := padicValNat_two_lt (k := 3) hdistance (by omega)
  have htwos_level := padicValNat_two_lt (k := 9) (Nat.succ_ne_zero l) (by omega)
  have htwos_levels := padicValNat_two_lt (k := 9) hlevels (by omega)
  have htwos_stride := padicValNat_two_lt (k := 14) hstride_pos (by omega)
  intro hmeet
  have hdvd : 2 ^ 32 ∣ ((a.toNat : ℤ) - b.toNat).natAbs * (l + 1) * s.packet.levelCount * s.stride := by
    have h := Int.natAbs_dvd_natAbs.2 hmeet
    rw [Int.natAbs_mul, Int.natAbs_mul, Int.natAbs_mul, Int.natAbs_natCast, Int.natAbs_natCast] at h
    exact h
  have hpair := mul_ne_zero hdistance (Nat.succ_ne_zero l)
  have htriple := mul_ne_zero hpair hlevels
  rw [padicValNat_dvd_iff_le (mul_ne_zero htriple hstride_pos), padicValNat.mul htriple hstride_pos,
    padicValNat.mul hpair hlevels, padicValNat.mul hdistance (Nat.succ_ne_zero l)] at hdvd
  omega

end OffloadBench.Config.Settings
