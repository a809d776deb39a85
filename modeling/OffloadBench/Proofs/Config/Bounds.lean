import OffloadBench.Config.Validity
import OffloadBench.Proofs.Wire.Exactness

/-! # Bounds of valid settings

What the check of the settings comes to in numbers that neither wrap nor saturate: a frame holds an
element and fits a datagram, there is a set and all sets together fit the range of stimulus values, and
the highest level's response fits the level byte. Every later fact about valid settings starts from
these bounds and not from the check.

The bounds are all that the check asks, and it refuses what breaks them even where its own arithmetic
wraps: a frame length that wraps to one that fits is refused for the range of the stimuli, as not even
one set has room in it. The span of a set does not saturate once one set fits.
-/
namespace OffloadBench.Config
open Stimulus Wire

namespace Settings

def stride (s : Settings) : Nat := max 1000 s.packet.elementCount.toNat

def span (s : Settings) : Nat := s.packet.levelCount * s.stride

structure Bounded (s : Settings) : Prop where
  elements_pos : 0 < s.packet.elementCount.toNat
  frame_le : 8 + 4 * s.packet.elementCount.toNat ≤ 65507
  sets_pos : 0 < s.run.testSets.toNat
  sets_le : s.run.testSets.toNat * s.span ≤ 2 ^ 32
  levels_le : s.packet.maxLevel.toNat + s.run.responseLevelOffset.toNat ≤ 255

end Settings

theorem PacketSettings.levelCount_le (p : PacketSettings) : p.levelCount ≤ 256 := by
  have := p.maxLevel.toNat_lt
  unfold levelCount
  omega

theorem PacketSettings.lt_levelCount {p : PacketSettings} {level : UInt8} (h : level ≤ p.maxLevel) :
    level.toNat < p.levelCount := Nat.lt_succ_of_le (UInt8.le_iff_toNat_le.1 h)

theorem PacketSettings.one_lt_levelCount {p : PacketSettings} (h : 1 ≤ p.maxLevel) :
    1 < p.levelCount := PacketSettings.lt_levelCount h

theorem PacketSettings.levelCount_pos (p : PacketSettings) : 0 < p.levelCount := Nat.succ_pos _

end OffloadBench.Config

namespace OffloadBench.Stimulus

theorem toNat_saturatingMul (a b : UInt64) :
    (saturatingMul a b).toNat = min (a.toNat * b.toNat) (2 ^ 64 - 1) := by
  have hsize : UInt64.size = 2 ^ 64 := rfl
  unfold saturatingMul
  split
  · rename_i h
    rw [UInt64.toNat_mul, Nat.mod_eq_of_lt h]
    omega
  · rename_i h
    change 2 ^ 64 - 1 = _
    omega

theorem toNat_levelStride (levels elements : UInt64) :
    (Pattern.ofGeometry levels elements).levelStride.toNat = max 1000 elements.toNat := by
  unfold Pattern.ofGeometry
  dsimp only
  split
  · rename_i h
    have h' : elements.toNat < 1000 := UInt64.lt_iff_toNat_lt.1 h
    change 1000 = _
    omega
  · rename_i h
    have h' : ¬ elements.toNat < 1000 := fun hlt => h (UInt64.lt_iff_toNat_lt.2 hlt)
    omega

theorem toNat_setSpan (levels elements : UInt64) :
    (Pattern.ofGeometry levels elements).setSpan.toNat =
      min (levels.toNat * max 1000 elements.toNat) (2 ^ 64 - 1) := by
  rw [← toNat_levelStride levels elements]
  exact toNat_saturatingMul _ _

theorem toNat_distinctSets {p : Pattern} (h : 0 < p.setSpan.toNat) :
    p.distinctSets.toNat = 2 ^ 32 / p.setSpan.toNat := by
  have hne : p.setSpan ≠ 0 := by
    intro hz
    rw [hz] at h
    exact Nat.lt_irrefl 0 h
  rw [Pattern.distinctSets, if_neg hne, UInt64.toNat_div]
  rfl

end OffloadBench.Stimulus

namespace OffloadBench.Config
open Stimulus Wire

theorem toNat_levelCount (p : PacketSettings) : (UInt64.ofNat p.levelCount).toNat = p.levelCount := by
  have := p.levelCount_le
  rw [UInt64.toNat_ofNat']
  omega

namespace Settings

theorem toNat_pattern_levelStride (s : Settings) : s.pattern.levelStride.toNat = s.stride :=
  toNat_levelStride _ _

theorem toNat_pattern_setSpan (s : Settings) :
    s.pattern.setSpan.toNat = min s.span (2 ^ 64 - 1) := by
  rw [pattern, toNat_setSpan, toNat_levelCount]
  rfl

theorem span_pos (s : Settings) : 0 < s.span :=
  Nat.mul_pos s.packet.levelCount_pos (by unfold stride; omega)

theorem toNat_pattern_distinctSets (s : Settings) (h : s.span < 2 ^ 64) :
    s.pattern.distinctSets.toNat = 2 ^ 32 / s.span := by
  have hspan := s.span_pos
  have hexact : s.pattern.setSpan.toNat = s.span := by
    rw [s.toNat_pattern_setSpan]
    omega
  rw [toNat_distinctSets (hexact.symm ▸ hspan), hexact]

/-- The five conditions, as the check poses them on wrapping and saturating words. -/
theorem conditions_of_valid {s : Settings} (h : s.validate = .ok ()) :
    s.packet.elementCount ≠ 0 ∧ ¬ datagramLimit < s.packet.layout.frameLength ∧
      s.run.testSets ≠ 0 ∧ ¬ s.pattern.distinctSets < s.run.testSets.toUInt64 ∧
      ¬ 255 < s.packet.maxLevel.toNat + s.run.responseLevelOffset.toNat := by
  unfold validate at h
  split at h
  · cases h
  split at h
  · cases h
  split at h
  · cases h
  split at h
  · cases h
  split at h
  · cases h
  · exact ⟨‹_›, ‹_›, ‹_›, ‹_›, ‹_›⟩

theorem valid_of_conditions {s : Settings} (helements : s.packet.elementCount ≠ 0)
    (hframe : ¬ datagramLimit < s.packet.layout.frameLength) (hsets : s.run.testSets ≠ 0)
    (hdistinct : ¬ s.pattern.distinctSets < s.run.testSets.toUInt64)
    (hlevels : ¬ 255 < s.packet.maxLevel.toNat + s.run.responseLevelOffset.toNat) :
    s.validate = .ok () := by
  rw [validate, if_neg helements, if_neg hframe, if_neg hsets, if_neg hdistinct, if_neg hlevels]

theorem bounded_of_valid {s : Settings} (h : s.validate = .ok ()) : s.Bounded := by
  obtain ⟨helements, hframe, hsets, hdistinct, hlevels⟩ := conditions_of_valid h
  have hE : 0 < s.packet.elementCount.toNat := by
    refine Nat.pos_of_ne_zero fun hz => helements (UInt64.toNat_inj.1 hz)
  have hN : 0 < s.run.testSets.toNat := by
    refine Nat.pos_of_ne_zero fun hz => hsets (UInt32.toNat_inj.1 hz)
  have hspan := s.span_pos
  have hpattern := s.toNat_pattern_setSpan
  have hpos : 0 < s.pattern.setSpan.toNat := by omega
  have hquotient : s.run.testSets.toNat ≤ 2 ^ 32 / s.pattern.setSpan.toNat := by
    have hle := UInt64.le_iff_toNat_le.1 (UInt64.not_lt.1 hdistinct)
    rwa [toNat_distinctSets hpos, UInt32.toNat_toUInt64] at hle
  have hproduct := (Nat.le_div_iff_mul_le hpos).1 hquotient
  have hone : s.pattern.setSpan.toNat ≤ 2 ^ 32 :=
    Nat.le_trans (Nat.le_mul_of_pos_left _ hN) hproduct
  have hexact : s.pattern.setSpan.toNat = s.span := by omega
  have hstride : s.stride ≤ s.span := Nat.le_mul_of_pos_left _ s.packet.levelCount_pos
  have hEle : s.packet.elementCount.toNat ≤ s.stride := Nat.le_max_right _ _
  refine ⟨hE, ?_, hN, hexact ▸ hproduct, by omega⟩
  have hle := UInt64.le_iff_toNat_le.1 (UInt64.not_lt.1 hframe)
  rwa [s.packet.layout.toNat_frameLength (by change 8 + 4 * s.packet.elementCount.toNat < _; omega)]
    at hle

/-- The check of the levels is the last one, so settings that fail it are valid but for the offset. -/
theorem valid_of_levelRange {s : Settings} {level offset : UInt8}
    (h : s.validate = .error (.levelRange level offset)) :
    (s.withResponseLevelOffset 0).validate = .ok () ∧
      255 < s.packet.maxLevel.toNat + s.run.responseLevelOffset.toNat := by
  unfold validate at h
  split at h
  · cases h
  split at h
  · cases h
  split at h
  · cases h
  split at h
  · cases h
  split at h
  · rename_i helements hframe hsets hdistinct hlevels
    have hzero : ¬ 255 < s.packet.maxLevel.toNat + (0 : UInt8).toNat := by
      have hbyte := s.packet.maxLevel.toNat_lt
      change ¬ 255 < s.packet.maxLevel.toNat + 0
      omega
    exact ⟨valid_of_conditions helements hframe hsets hdistinct hzero, hlevels⟩
  · cases h

theorem Bounded.toNat_frameLength {s : Settings} (h : s.Bounded) :
    s.packet.layout.frameLength.toNat = 8 + 4 * s.packet.elementCount.toNat := by
  have := h.frame_le
  exact s.packet.layout.toNat_frameLength (by change 8 + 4 * s.packet.elementCount.toNat < _; omega)

theorem Bounded.stride_le {s : Settings} (h : s.Bounded) : s.stride ≤ 16374 := by
  have := h.frame_le
  rw [stride]
  omega

theorem valid_of_bounded {s : Settings} (h : s.Bounded) : s.validate = .ok () := by
  have hframe := h.toNat_frameLength
  obtain ⟨helements, hdatagram, hsets, hspans, hlevels⟩ := h
  have hspan : s.span ≤ 2 ^ 32 := Nat.le_trans (Nat.le_mul_of_pos_left _ hsets) hspans
  have hquotient : s.run.testSets.toNat ≤ 2 ^ 32 / s.span :=
    (Nat.le_div_iff_mul_le s.span_pos).2 hspans
  apply valid_of_conditions
  · intro hz
    rw [hz] at helements
    exact Nat.lt_irrefl 0 helements
  · rw [UInt64.not_lt, UInt64.le_iff_toNat_le, hframe]
    exact hdatagram
  · intro hz
    rw [hz] at hsets
    exact Nat.lt_irrefl 0 hsets
  · rw [UInt64.not_lt, UInt64.le_iff_toNat_le, s.toNat_pattern_distinctSets (by omega),
      UInt32.toNat_toUInt64]
    exact hquotient
  · omega

theorem distinctSets_of_wrapped {s : Settings} (h : 2 ^ 64 ≤ 8 + 4 * s.packet.elementCount.toNat) :
    s.pattern.distinctSets = 0 := by
  have hstride : s.packet.elementCount.toNat ≤ s.stride := Nat.le_max_right _ _
  have hspan : s.stride ≤ s.span := Nat.le_mul_of_pos_left _ s.packet.levelCount_pos
  have hpattern := s.toNat_pattern_setSpan
  have hlarge : 2 ^ 32 < s.pattern.setSpan.toNat := by omega
  apply UInt64.toNat_inj.1
  rw [toNat_distinctSets (by omega), Nat.div_eq_of_lt hlarge]
  rfl

/-- A wrapped length can pass the check of the frame; the check of the sets is what refuses it. -/
theorem validate_of_wrapped {s : Settings} (hwraps : 2 ^ 64 ≤ 8 + 4 * s.packet.elementCount.toNat)
    (hframe : s.packet.layout.frameLength ≤ datagramLimit) :
    s.validate =
      .error (if s.run.testSets = 0 then .noTestSets else .stimulusRange s.run.testSets 0) := by
  have helements : s.packet.elementCount ≠ 0 := by
    intro hz
    rw [hz] at hwraps
    exact absurd hwraps (by decide)
  rw [validate, if_neg helements, if_neg (UInt64.not_lt.2 hframe), distinctSets_of_wrapped hwraps]
  split
  · rfl
  · rename_i hsets
    have hpos : (0 : UInt64) < s.run.testSets.toUInt64 := by
      rw [UInt64.lt_iff_toNat_lt, UInt32.toNat_toUInt64]
      exact Nat.pos_of_ne_zero fun hz => hsets (UInt32.toNat_inj.1 hz)
    rw [if_pos hpos]

/-- Settings are valid if and only if they keep these bounds, in numbers that do not wrap. -/
theorem validate_exact (s : Settings) :
    (s.validate = .ok () ↔
      1 ≤ s.packet.elementCount.toNat ∧
      8 + 4 * s.packet.elementCount.toNat ≤ 65507 ∧
      1 ≤ s.run.testSets.toNat ∧
      s.run.testSets.toNat * (s.packet.maxLevel.toNat + 1) *
          max 1000 s.packet.elementCount.toNat ≤ 2 ^ 32 ∧
      s.packet.maxLevel.toNat + s.run.responseLevelOffset.toNat ≤ 255) ∧
    (2 ^ 64 ≤ 8 + 4 * s.packet.elementCount.toNat →
      s.packet.layout.frameLength ≤ datagramLimit →
      s.validate =
        .error (if s.run.testSets = 0 then .noTestSets else .stimulusRange s.run.testSets 0)) := by
  have hproduct : s.run.testSets.toNat * (s.packet.maxLevel.toNat + 1) *
      max 1000 s.packet.elementCount.toNat = s.run.testSets.toNat * s.span := by
    rw [Nat.mul_assoc]
    rfl
  refine ⟨⟨fun h => ?_, ?_⟩, validate_of_wrapped⟩
  · obtain ⟨helements, hframe, hsets, hspans, hlevels⟩ := bounded_of_valid h
    exact ⟨helements, hframe, hsets, hproduct ▸ hspans, hlevels⟩
  · rintro ⟨helements, hframe, hsets, hspans, hlevels⟩
    exact valid_of_bounded ⟨helements, hframe, hsets, hproduct ▸ hspans, hlevels⟩

/-- The frame of 2 ^ 62 elements wraps to the eight bytes of its metadata. -/
theorem validate_exact_wrapped :
    let s : Settings := ({} : Settings).withElementCount 0x4000000000000000
    2 ^ 64 ≤ 8 + 4 * s.packet.elementCount.toNat ∧ s.packet.layout.frameLength = 8 ∧
      s.validate = .error (.stimulusRange 1 0) := by
  intro s
  have hwraps : 2 ^ 64 ≤ 8 + 4 * s.packet.elementCount.toNat := by decide
  have hframe : s.packet.layout.frameLength = 8 := by decide
  exact ⟨hwraps, hframe, (validate_exact s).2 hwraps (by rw [hframe]; decide)⟩

end Settings

end OffloadBench.Config
