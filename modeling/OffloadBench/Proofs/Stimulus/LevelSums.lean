import Mathlib.Data.UInt
import OffloadBench.Proofs.Stimulus.Spread

/-! # Sums over sets of levels

The running sum of a level is taken over that level and all lower ones. No other set of levels has the
same sum where a payload has two words: the difference between the two tells how many levels were
summed, and of all sets with as many levels the lowest ones, and only they, have the least sum of level
numbers. A single word tells the number of levels modulo eight only.
-/
namespace OffloadBench.Stimulus
open Wire

/-- The sum of the payloads of a set of levels, word by word, on words that wrap. -/
def sumOver (payloads : List Payload) (elements : Nat) (levels : Finset Nat) : Payload :=
  (List.range elements).map fun e => ∑ l ∈ levels, entry payloads l e

theorem getD_sumOver {payloads : List Payload} {elements e : Nat} (levels : Finset Nat)
    (he : e < elements) :
    (sumOver payloads elements levels).getD e 0 = ∑ l ∈ levels, entry payloads l e := by
  simp [sumOver, he]

/-- Words may be added as numbers and reduced once. -/
theorem sum_eq_ofNat (levels : Finset Nat) (word : Nat → UInt32) :
    ∑ l ∈ levels, word l = UInt32.ofNat (∑ l ∈ levels, (word l).toNat) := by
  induction levels using Finset.induction_on with
  | empty => rfl
  | insert l levels hl ih =>
    rw [Finset.sum_insert hl, Finset.sum_insert hl, UInt32.ofNat_add, UInt32.ofNat_toNat, ih]

theorem sumOver_range (payloads : List Payload) (elements level : Nat) :
    sumOver payloads elements (Finset.range (level + 1)) =
      (List.range elements).map fun e => UInt32.ofNat (prefixSum payloads level e) := by
  simp only [sumOver, sum_eq_ofNat, prefixSum]

/-- Of the sets of a size, the one with the lowest numbers has the least sum, and no other has it. -/
theorem sum_range_card_lt {levels : Finset Nat} (h : levels ≠ Finset.range levels.card) :
    ∑ l ∈ Finset.range levels.card, l < ∑ l ∈ levels, l := by
  have hcard : (Finset.range levels.card \ levels).card = (levels \ Finset.range levels.card).card :=
    Finset.card_sdiff_comm (Finset.card_range _)
  have hmissing : (Finset.range levels.card \ levels).Nonempty := by
    rw [Finset.sdiff_nonempty]
    intro hsub
    exact h (Finset.eq_of_subset_of_card_le hsub (Finset.card_range _).ge).symm
  rw [← Finset.sum_sdiff_lt_sum_sdiff]
  calc ∑ l ∈ Finset.range levels.card \ levels, l
      < ∑ _l ∈ Finset.range levels.card \ levels, levels.card := by
        refine Finset.sum_lt_sum_of_nonempty hmissing ?_
        intro l hl
        exact Finset.mem_range.1 (Finset.mem_sdiff.1 hl).1
    _ = (levels \ Finset.range levels.card).card • levels.card := by
        rw [Finset.sum_const, hcard]
    _ ≤ ∑ l ∈ levels \ Finset.range levels.card, l := by
        refine Finset.card_nsmul_le_sum _ _ _ ?_
        intro l hl
        exact Nat.not_lt.1 (fun hlt => (Finset.mem_sdiff.1 hl).2 (Finset.mem_range.2 hlt))

end OffloadBench.Stimulus

namespace OffloadBench.Config.Settings
open Stimulus Wire

variable {s : Settings} {levels : Finset Nat}

theorem lt_levelCount_of_mem (hlevels : levels ⊆ Finset.range s.packet.levelCount) {l : Nat}
    (hl : l ∈ levels) : l < s.packet.levelCount := Finset.mem_range.1 (hlevels hl)

theorem toNat_sum_modEq (hs : s.Bounded) (set : UInt32) {e : Nat}
    (hlevels : levels ⊆ Finset.range s.packet.levelCount)
    (he : e < s.packet.elementCount.toNat) :
    (∑ l ∈ levels, entry (s.inputs set) l e).toNat ≡ s.countOver set levels e [MOD 2 ^ 32] := by
  rw [sum_eq_ofNat, UInt32.toNat_ofNat']
  exact (Nat.mod_modEq _ _).trans
    (sum_entry_modEq hs set (fun _ => lt_levelCount_of_mem hlevels) he)

theorem card_le_of_levels (hlevels : levels ⊆ Finset.range s.packet.levelCount) :
    levels.card ≤ s.packet.levelCount := by
  have h := Finset.card_le_card hlevels
  rwa [Finset.card_range] at h

/-- The level numbers of a set of levels do not reach the modulus, not even a stride apart. -/
theorem sum_mul_stride_lt (hs : s.Bounded) (hlevels : levels ⊆ Finset.range s.packet.levelCount) :
    (∑ l ∈ levels, l) * s.stride < 2 ^ 32 := by
  have hbound := s.packet.levelCount_le
  have hsum : ∑ l ∈ levels, l ≤ 256 * 255 := by
    calc ∑ l ∈ levels, l ≤ levels.card • 255 := by
          refine Finset.sum_le_card_nsmul _ _ _ ?_
          intro l hl
          have := lt_levelCount_of_mem hlevels hl
          omega
      _ ≤ 256 * 255 := Nat.mul_le_mul_right 255 ((card_le_of_levels hlevels).trans hbound)
  calc (∑ l ∈ levels, l) * s.stride ≤ 256 * 255 * 16374 := Nat.mul_le_mul hsum hs.stride_le
    _ < 2 ^ 32 := by decide

variable {levels' : Finset Nat}

/-- Two neighbouring words tell how many levels were summed. -/
theorem card_eq_of_modEq (hlevels : levels ⊆ Finset.range s.packet.levelCount)
    (hlevels' : levels' ⊆ Finset.range s.packet.levelCount) {set : UInt32} {e : Nat}
    (h : s.countOver set levels e ≡ s.countOver set levels' e [MOD 2 ^ 32])
    (hnext : s.countOver set levels (e + 1) ≡ s.countOver set levels' (e + 1) [MOD 2 ^ 32]) :
    levels.card = levels'.card := by
  have hbound := s.packet.levelCount_le
  have hcard := card_le_of_levels hlevels
  have hcard' := card_le_of_levels hlevels'
  rw [countOver_element_succ, countOver_element_succ] at hnext
  exact (h.add_left_cancel hnext).eq_of_lt_of_lt (by omega) (by omega)

/-- One word alone tells that number modulo eight, the power of two in the stride. -/
theorem countOver_modEq_card (hone : s.packet.elementCount.toNat = 1) (set : UInt32)
    (levels : Finset Nat) : s.countOver set levels 0 ≡ levels.card [MOD 8] := by
  have hstride : s.stride = 1000 := by rw [stride, hone]; rfl
  have hsplit : s.countOver set levels 0 = levels.card +
      8 * (125 * (levels.card * set.toNat * s.packet.levelCount + ∑ l ∈ levels, l)) := by
    rw [countOver_eq, span, hstride]
    ring
  rw [hsplit, Nat.ModEq, Nat.add_mul_mod_self_left]

/-- Whether `m` or `n` levels were summed shows in the words of the sum: in two neighbouring words for any
two numbers, in a single word for numbers less than eight apart. -/
def TellsCounts (s : Settings) (m n : Nat) : Prop :=
  2 ≤ s.packet.elementCount.toNat ∨ m < n + 8 ∧ n < m + 8

theorem card_eq_of_tellsCounts (hs : s.Bounded) {set : UInt32}
    (hlevels : levels ⊆ Finset.range s.packet.levelCount)
    (hlevels' : levels' ⊆ Finset.range s.packet.levelCount)
    (htells : s.TellsCounts levels.card levels'.card)
    (h : ∀ e < s.packet.elementCount.toNat,
      s.countOver set levels e ≡ s.countOver set levels' e [MOD 2 ^ 32]) :
    levels.card = levels'.card := by
  have hpos := hs.elements_pos
  by_cases htwo : 2 ≤ s.packet.elementCount.toNat
  · exact card_eq_of_modEq hlevels hlevels' (h 0 hpos) (h 1 htwo)
  · have hone : s.packet.elementCount.toNat = 1 := by omega
    obtain ⟨hlt, hlt'⟩ := htells.resolve_left htwo
    have hwords := (h 0 hpos).of_dvd (show 8 ∣ 2 ^ 32 by decide)
    have hcards := ((countOver_modEq_card hone set levels).symm.trans hwords).trans
      (countOver_modEq_card hone set levels')
    rw [Nat.ModEq] at hcards
    omega

/-- Among sets with as many levels, one word tells the sum of their numbers. -/
theorem sum_eq_of_modEq (hs : s.Bounded) (hlevels : levels ⊆ Finset.range s.packet.levelCount)
    (hlevels' : levels' ⊆ Finset.range s.packet.levelCount) (hcard : levels.card = levels'.card)
    {set : UInt32} {e : Nat}
    (h : s.countOver set levels e ≡ s.countOver set levels' e [MOD 2 ^ 32]) :
    ∑ l ∈ levels, l = ∑ l ∈ levels', l := by
  have hpos : 0 < s.stride := by
    rw [stride]
    omega
  rw [countOver_eq, countOver_eq, hcard] at h
  have hproduct := (h.add_left_cancel' _).eq_of_lt_of_lt (sum_mul_stride_lt hs hlevels)
    (sum_mul_stride_lt hs hlevels')
  exact Nat.eq_of_mul_eq_mul_right hpos hproduct

/-- The running sum of a level is the sum of no set of levels, of a size it can be told from, but the
level and all lower ones. -/
theorem eq_range_of_sums_eq (hs : s.Bounded) (set : UInt32) {i : Nat}
    (hi : i < s.packet.levelCount) (hlevels : levels ⊆ Finset.range s.packet.levelCount)
    (htells : s.TellsCounts levels.card (i + 1))
    (h : ∀ e < s.packet.elementCount.toNat, ∑ l ∈ levels, entry (s.inputs set) l e =
      ∑ l ∈ Finset.range (i + 1), entry (s.inputs set) l e) :
    levels = Finset.range (i + 1) := by
  have hprefix : Finset.range (i + 1) ⊆ Finset.range s.packet.levelCount :=
    Finset.range_subset_range.2 hi
  have hmod : ∀ e < s.packet.elementCount.toNat, s.countOver set levels e ≡
      s.countOver set (Finset.range (i + 1)) e [MOD 2 ^ 32] := by
    intro e he
    have hwords := toNat_sum_modEq hs set hlevels he
    rw [h e he] at hwords
    exact hwords.symm.trans (toNat_sum_modEq hs set hprefix he)
  have hcard := card_eq_of_tellsCounts hs hlevels hprefix (by rwa [Finset.card_range]) hmod
  have hsum := sum_eq_of_modEq hs hlevels hprefix hcard (hmod 0 hs.elements_pos)
  rw [Finset.card_range] at hcard
  by_contra hne
  have hlt : ∑ l ∈ Finset.range levels.card, l < ∑ l ∈ levels, l :=
    sum_range_card_lt (by rwa [hcard])
  rw [hcard, hsum] at hlt
  exact Nat.lt_irrefl _ hlt

/-- A single word does not tell more: in a set that the settings allow, the word of one level is the
running sum of thirty-three. -/
example :
    let s : Settings :=
      { packet := { elementCount := 1, maxLevel := 34 }, run := { testSets := 65192 } }
    s.validate = .ok () ∧ 65191 < s.run.testSets ∧
      entry (s.inputs 65191) 4 0 = ∑ l ∈ Finset.range 33, entry (s.inputs 65191) l 0 := by
  decide

end OffloadBench.Config.Settings
