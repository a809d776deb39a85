import Mathlib.Data.Set.Function
import OffloadBench.Proofs.Stimulus.Spread

/-! # Distinct stimulus values

A count is a numeral of three digits: the set, the level and the element, with the set span and the
level stride as the weights. So different positions have different counts, and their values differ
too as long as the counts stay within one 32-bit range. This holds for all sets that the settings
allow, and within every single set. Where levels follow each other without a gap, one set more than
the limit repeats a value.
-/
namespace OffloadBench.Stimulus

structure Position where
  set : UInt32
  level : UInt8
  element : UInt64
  deriving DecidableEq, Repr

namespace Position

def InFrame (levels elements : Nat) (x : Position) : Prop :=
  x.level.toNat < levels ∧ x.element.toNat < elements

theorem ext_toNat {x y : Position} (hset : x.set.toNat = y.set.toNat)
    (hlevel : x.level.toNat = y.level.toNat) (helement : x.element.toNat = y.element.toNat) :
    x = y := by
  cases x
  cases y
  obtain rfl := UInt32.toNat_inj.1 hset
  obtain rfl := UInt8.toNat_inj.1 hlevel
  obtain rfl := UInt64.toNat_inj.1 helement
  rfl

end Position

/-- A number is taken apart in one way only into a multiple of a weight and a rest below the weight. -/
theorem eq_and_eq_of_mul_add_eq {n a b r s : Nat} (hr : r < n) (hs : s < n)
    (h : a * n + r = b * n + s) : a = b ∧ r = s := by
  have hn : 0 < n := Nat.zero_lt_of_lt hr
  have hleft := (Nat.div_mod_unique (a := a * n + r) (d := a) (c := r) hn).2
    ⟨by rw [Nat.mul_comm n, Nat.add_comm], hr⟩
  have hright := (Nat.div_mod_unique (a := a * n + r) (d := b) (c := s) hn).2
    ⟨by rw [h, Nat.mul_comm n, Nat.add_comm], hs⟩
  exact ⟨hleft.1.symm.trans hright.1, hleft.2.symm.trans hright.2⟩

namespace Pattern

def valueAt (p : Pattern) (x : Position) : UInt32 := p.value x.set x.level x.element

def place (p : Pattern) (x : Position) : Nat :=
  x.level.toNat * p.levelStride.toNat + x.element.toNat

def rawCount (p : Pattern) (x : Position) : Nat := x.set.toNat * p.setSpan.toNat + p.place x + 1

/-- Every product and every sum on the way to a count is the same on words and on numbers. -/
structure Exact (p : Pattern) (x : Position) : Prop where
  sets : (x.set.toUInt64 * p.setSpan).toNat = x.set.toNat * p.setSpan.toNat
  levels : (x.level.toUInt64 * p.levelStride).toNat = x.level.toNat * p.levelStride.toNat
  start : (x.set.toUInt64 * p.setSpan + x.level.toUInt64 * p.levelStride).toNat =
    x.set.toNat * p.setSpan.toNat + x.level.toNat * p.levelStride.toNat
  element : (x.set.toUInt64 * p.setSpan + x.level.toUInt64 * p.levelStride + x.element).toNat =
    x.set.toNat * p.setSpan.toNat + p.place x
  count : (p.count x.set x.level x.element).toNat = p.rawCount x

/-- One set of the geometry fits the 32-bit range, and its span did not saturate. -/
structure Fits (p : Pattern) (levels elements : Nat) : Prop where
  span_eq : p.setSpan.toNat = levels * p.levelStride.toNat
  elements_le : elements ≤ p.levelStride.toNat
  span_pos : 0 < p.setSpan.toNat
  span_le : p.setSpan.toNat ≤ 2 ^ 32

variable {p : Pattern} {levels elements : Nat} {x y : Position}

theorem toNat_valueAt (p : Pattern) (x : Position) :
    (p.valueAt x).toNat = p.rawCount x % 2 ^ 32 := by
  rw [valueAt, toNat_value, rawCount, place, Nat.add_assoc (_ * _)]

theorem exact_of_rawCount_lt (h : p.rawCount x < 2 ^ 64) : p.Exact x := by
  have hcount : p.rawCount x = x.set.toNat * p.setSpan.toNat +
    (x.level.toNat * p.levelStride.toNat + x.element.toNat) + 1 := rfl
  have hset := x.set.toUInt64.toNat_mul p.setSpan
  have hlevel := x.level.toUInt64.toNat_mul p.levelStride
  rw [UInt32.toNat_toUInt64, Nat.mod_eq_of_lt (by omega)] at hset
  rw [UInt8.toNat_toUInt64, Nat.mod_eq_of_lt (by omega)] at hlevel
  have hstart := (x.set.toUInt64 * p.setSpan).toNat_add (x.level.toUInt64 * p.levelStride)
  rw [hset, hlevel, Nat.mod_eq_of_lt (by omega)] at hstart
  have helement := (x.set.toUInt64 * p.setSpan + x.level.toUInt64 * p.levelStride).toNat_add x.element
  rw [hstart, Nat.mod_eq_of_lt (by omega), Nat.add_assoc] at helement
  refine ⟨hset, hlevel, hstart, helement, ?_⟩
  rw [count, UInt64.toNat_add, helement]
  exact Nat.mod_eq_of_lt h

theorem toNat_distinctSets_mul_le {p : Pattern} (h : 0 < p.setSpan.toNat) :
    p.distinctSets.toNat * p.setSpan.toNat ≤ 2 ^ 32 ∧
      2 ^ 32 < (p.distinctSets.toNat + 1) * p.setSpan.toNat := by
  rw [toNat_distinctSets h]
  exact ⟨Nat.div_mul_le_self _ _, Nat.mul_comm _ _ ▸ Nat.lt_mul_div_succ _ h⟩

theorem fits_ofGeometry {levels elements : UInt64} (hlevels : 1 ≤ levels)
    (hsets : 1 ≤ (ofGeometry levels elements).distinctSets) :
    (ofGeometry levels elements).Fits levels.toNat elements.toNat := by
  have hpos : 1 ≤ levels.toNat := UInt64.le_iff_toNat_le.1 hlevels
  have hstride := toNat_levelStride levels elements
  have hspan := toNat_setSpan levels elements
  rw [← hstride] at hspan
  have hone : 1000 ≤ levels.toNat * (ofGeometry levels elements).levelStride.toNat :=
    Nat.le_trans (by omega) (Nat.le_mul_of_pos_left _ hpos)
  have hspan_pos : 0 < (ofGeometry levels elements).setSpan.toNat := by omega
  have hle : (ofGeometry levels elements).setSpan.toNat ≤ 2 ^ 32 :=
    Nat.le_trans (Nat.le_mul_of_pos_left _ (UInt64.le_iff_toNat_le.1 hsets))
      (toNat_distinctSets_mul_le hspan_pos).1
  exact ⟨by omega, by omega, hspan_pos, hle⟩

namespace Fits

theorem place_lt (h : p.Fits levels elements) (hx : x.InFrame levels elements) :
    p.place x < p.setSpan.toNat := by
  have hrow : (x.level.toNat + 1) * p.levelStride.toNat ≤ levels * p.levelStride.toNat :=
    Nat.mul_le_mul_right _ hx.1
  have helement := Nat.lt_of_lt_of_le hx.2 h.elements_le
  rw [Nat.succ_mul] at hrow
  rw [place, h.span_eq]
  omega

theorem eq_of_place_eq (h : p.Fits levels elements) (hx : x.InFrame levels elements)
    (hy : y.InFrame levels elements) (hset : x.set.toNat = y.set.toNat)
    (hplace : p.place x = p.place y) : x = y := by
  obtain ⟨hlevel, helement⟩ := eq_and_eq_of_mul_add_eq (Nat.lt_of_lt_of_le hx.2 h.elements_le)
    (Nat.lt_of_lt_of_le hy.2 h.elements_le) hplace
  exact Position.ext_toNat hset hlevel helement

theorem eq_of_rawCount_eq (h : p.Fits levels elements) (hx : x.InFrame levels elements)
    (hy : y.InFrame levels elements) (hcount : p.rawCount x = p.rawCount y) : x = y := by
  obtain ⟨hset, hplace⟩ := eq_and_eq_of_mul_add_eq (h.place_lt hx) (h.place_lt hy)
    (Nat.succ.inj hcount)
  exact h.eq_of_place_eq hx hy hset hplace

theorem rawCount_le (h : p.Fits levels elements) (hx : x.InFrame levels elements) {sets : Nat}
    (hset : x.set.toNat < sets) : p.rawCount x ≤ sets * p.setSpan.toNat := by
  have hplace := h.place_lt hx
  have hsets : (x.set.toNat + 1) * p.setSpan.toNat ≤ sets * p.setSpan.toNat :=
    Nat.mul_le_mul_right _ hset
  rw [Nat.succ_mul] at hsets
  rw [rawCount]
  omega

/-- Within one set, of whatever index, no value comes twice. -/
theorem eq_of_valueAt_eq (h : p.Fits levels elements) (hx : x.InFrame levels elements)
    (hy : y.InFrame levels elements) (hset : x.set = y.set) (hvalue : p.valueAt x = p.valueAt y) :
    x = y := by
  have hplace_x := h.place_lt hx
  have hplace_y := h.place_lt hy
  have hle := h.span_le
  have hmod := congrArg UInt32.toNat hvalue
  rw [toNat_valueAt, toNat_valueAt, rawCount, rawCount, hset] at hmod
  exact h.eq_of_place_eq hx hy (congrArg UInt32.toNat hset) (by omega)

end Fits

/-- The position of a count within the sets of a geometry whose levels leave no gap. -/
def positionOf (p : Pattern) (count : Nat) : Position where
  set := UInt32.ofNat (count / p.setSpan.toNat)
  level := UInt8.ofNat (count % p.setSpan.toNat / p.levelStride.toNat)
  element := UInt64.ofNat (count % p.setSpan.toNat % p.levelStride.toNat)

/-- Without gaps, every count up to 2 ^ 32 + 1 is the count of some position. -/
theorem Fits.positionOf_spec (h : p.Fits levels elements) (hlevels : levels ≤ 256)
    (hgapless : p.levelStride.toNat = elements) (hlong : 1000 ≤ elements) {n : Nat}
    (hn : n ≤ 2 ^ 32) :
    (p.positionOf n).InFrame levels elements ∧
      (p.positionOf n).set.toNat = n / p.setSpan.toNat ∧ p.rawCount (p.positionOf n) = n + 1 := by
  have hspan := h.span_le
  have hstride : p.levelStride.toNat ≤ p.setSpan.toNat := by
    rw [h.span_eq]
    refine Nat.le_mul_of_pos_left _ (Nat.pos_of_ne_zero ?_)
    rintro rfl
    have := h.span_pos
    rw [h.span_eq] at this
    omega
  have hrest : n % p.setSpan.toNat < levels * elements := by
    rw [← hgapless, ← h.span_eq]
    exact Nat.mod_lt _ h.span_pos
  have hlevel : n % p.setSpan.toNat / elements < levels :=
    Nat.div_lt_of_lt_mul (Nat.mul_comm _ _ ▸ hrest)
  have helement : n % p.setSpan.toNat % elements < elements := Nat.mod_lt _ (by omega)
  have hset : n / p.setSpan.toNat < 2 ^ 32 := by
    refine Nat.lt_of_le_of_lt (Nat.div_le_div_left (show 1000 ≤ _ by omega) (by omega)) ?_
    omega
  have hset' : (p.positionOf n).set.toNat = n / p.setSpan.toNat := by
    rw [positionOf, UInt32.toNat_ofNat', Nat.mod_eq_of_lt hset]
  have hlevel' : (p.positionOf n).level.toNat = n % p.setSpan.toNat / elements := by
    rw [positionOf, hgapless, UInt8.toNat_ofNat', Nat.mod_eq_of_lt (by omega)]
  have helement' : (p.positionOf n).element.toNat = n % p.setSpan.toNat % elements := by
    rw [positionOf, hgapless, UInt64.toNat_ofNat', Nat.mod_eq_of_lt (by omega)]
  refine ⟨⟨hlevel' ▸ hlevel, helement' ▸ helement⟩, hset', ?_⟩
  rw [rawCount, place, hset', hlevel', helement', hgapless, Nat.div_add_mod', Nat.div_add_mod']

/-- Without gaps, the set behind the limit holds the first value of all once more. -/
theorem Fits.exists_valueAt_eq (h : p.Fits levels elements) (hlevels : levels ≤ 256)
    (hgapless : p.levelStride.toNat = elements) (hlong : 1000 ≤ elements) :
    ∃ x y : Position, x ≠ y ∧ x.InFrame levels elements ∧ y.InFrame levels elements ∧
      x.set.toNat < p.distinctSets.toNat + 1 ∧ y.set.toNat < p.distinctSets.toNat + 1 ∧
      p.valueAt x = p.valueAt y := by
  obtain ⟨hx, hxset, hxcount⟩ := h.positionOf_spec hlevels hgapless hlong (Nat.zero_le _)
  obtain ⟨hy, hyset, hycount⟩ := h.positionOf_spec hlevels hgapless hlong (Nat.le_refl (2 ^ 32))
  refine ⟨p.positionOf 0, p.positionOf (2 ^ 32), ?_, hx, hy, ?_, ?_, ?_⟩
  · intro heq
    rw [heq, hycount] at hxcount
    omega
  · rw [hxset, Nat.zero_div]
    exact Nat.succ_pos _
  · rw [hyset, toNat_distinctSets h.span_pos]
    exact Nat.lt_succ_self _
  · apply UInt32.toNat_inj.1
    rw [toNat_valueAt, toNat_valueAt, hxcount, hycount]
    exact (Nat.add_mod_left (2 ^ 32) 1).symm

end Pattern

end OffloadBench.Stimulus

namespace OffloadBench.Config
open Stimulus

namespace Settings

def positions (s : Settings) : Set Position :=
  {x | x.set < s.run.testSets ∧ x.level ≤ s.packet.maxLevel ∧ x.element < s.packet.elementCount}

variable {s : Settings} {x : Position}

theorem inFrame_of_mem_positions (h : x ∈ s.positions) :
    x.InFrame s.packet.levelCount s.packet.elementCount.toNat :=
  ⟨PacketSettings.lt_levelCount h.2.1, UInt64.lt_iff_toNat_lt.1 h.2.2⟩

theorem one_le_distinctSets (h : s.validate = .ok ()) : 1 ≤ s.pattern.distinctSets := by
  obtain ⟨-, -, -, hdistinct, -⟩ := conditions_of_valid h
  have hle := UInt64.le_iff_toNat_le.1 (UInt64.not_lt.1 hdistinct)
  rw [UInt32.toNat_toUInt64] at hle
  exact UInt64.le_iff_toNat_le.2 (Nat.le_trans (bounded_of_valid h).sets_pos hle)

theorem fits_pattern (h : s.validate = .ok ()) :
    s.pattern.Fits s.packet.levelCount s.packet.elementCount.toNat := by
  rw [← toNat_levelCount s.packet]
  refine Pattern.fits_ofGeometry (UInt64.le_iff_toNat_le.2 ?_) (one_le_distinctSets h)
  rw [toNat_levelCount]
  exact s.packet.levelCount_pos

theorem rawCount_le (h : s.validate = .ok ()) (hx : x ∈ s.positions) :
    s.pattern.rawCount x ≤ 2 ^ 32 := by
  obtain ⟨-, -, -, hdistinct, -⟩ := conditions_of_valid h
  have hfits := fits_pattern h
  have hle := UInt64.le_iff_toNat_le.1 (UInt64.not_lt.1 hdistinct)
  rw [UInt32.toNat_toUInt64] at hle
  refine Nat.le_trans ?_ (Pattern.toNat_distinctSets_mul_le hfits.span_pos).1
  exact hfits.rawCount_le (inFrame_of_mem_positions hx)
    (Nat.lt_of_lt_of_le (UInt32.lt_iff_toNat_lt.1 hx.1) hle)

theorem injOn_valueAt (h : s.validate = .ok ()) : Set.InjOn s.pattern.valueAt s.positions := by
  intro x hx y hy hvalue
  have hx_le := rawCount_le h hx
  have hy_le := rawCount_le h hy
  have hmod := congrArg UInt32.toNat hvalue
  rw [Pattern.toNat_valueAt, Pattern.toNat_valueAt] at hmod
  refine (fits_pattern h).eq_of_rawCount_eq (inFrame_of_mem_positions hx)
    (inFrame_of_mem_positions hy) ?_
  have hx_pos : 0 < s.pattern.rawCount x := Nat.succ_pos _
  have hy_pos : 0 < s.pattern.rawCount y := Nat.succ_pos _
  omega

end Settings

/-- Stimulus values never repeat. Under valid settings no two positions of a run share a value, and
every step of a count is exact. In any geometry of which one set fits the 32-bit range no set holds a
value twice, whatever its index. With a thousand elements or more the limit on the sets is tight. -/
theorem stimulus_values_distinct :
    (∀ s : Settings, s.validate = .ok () →
      Set.InjOn s.pattern.valueAt s.positions ∧
        s.pattern.setSpan.toNat = s.packet.levelCount * s.pattern.levelStride.toNat ∧
        ∀ x ∈ s.positions, s.pattern.Exact x ∧
          1 ≤ s.pattern.rawCount x ∧ s.pattern.rawCount x ≤ 2 ^ 32) ∧
    (∀ levels elements : UInt64, 1 ≤ levels → levels ≤ 256 →
      1 ≤ (Pattern.ofGeometry levels elements).distinctSets →
      (∀ set : UInt32, Set.InjOn (Pattern.ofGeometry levels elements).valueAt
        {x | x.set = set ∧ x.InFrame levels.toNat elements.toNat}) ∧
      (1000 ≤ elements → ∃ x y : Position, x ≠ y ∧
        x.InFrame levels.toNat elements.toNat ∧ y.InFrame levels.toNat elements.toNat ∧
        x.set.toNat < (Pattern.ofGeometry levels elements).distinctSets.toNat + 1 ∧
        y.set.toNat < (Pattern.ofGeometry levels elements).distinctSets.toNat + 1 ∧
        (Pattern.ofGeometry levels elements).valueAt x =
          (Pattern.ofGeometry levels elements).valueAt y)) := by
  constructor
  · intro s h
    refine ⟨Settings.injOn_valueAt h, (Settings.fits_pattern h).span_eq, ?_⟩
    intro x hx
    have hle := Settings.rawCount_le h hx
    exact ⟨Pattern.exact_of_rawCount_lt (by omega), Nat.succ_pos _, hle⟩
  · intro levels elements hlevels hmost hsets
    have hfits := Pattern.fits_ofGeometry hlevels hsets
    refine ⟨?_, ?_⟩
    · intro set x hx y hy hvalue
      exact hfits.eq_of_valueAt_eq hx.2 hy.2 (hx.1.trans hy.1.symm) hvalue
    · intro hlong
      have hlong' : 1000 ≤ elements.toNat := UInt64.le_iff_toNat_le.1 hlong
      refine hfits.exists_valueAt_eq (UInt64.le_iff_toNat_le.1 hmost) ?_ hlong'
      rw [toNat_levelStride, Nat.max_eq_right hlong']

def Settings.mostSets : Settings where
  packet := { elementCount := 1000, maxLevel := 3 }
  run := { testSets := 1073741 }

theorem stimulus_values_distinct_mostSets :
    Settings.mostSets.validate = .ok () ∧
      Settings.mostSets.pattern.valueAt ⟨1073740, 3, 999⟩ ≠
        Settings.mostSets.pattern.valueAt ⟨0, 0, 0⟩ ∧
      ∃ x y : Position, x ≠ y ∧ x.set.toNat < 1073742 ∧ y.set.toNat < 1073742 ∧
        Settings.mostSets.pattern.valueAt x = Settings.mostSets.pattern.valueAt y := by
  have hvalid : Settings.mostSets.validate = .ok () := by decide
  refine ⟨hvalid, ?_, ?_⟩
  · intro heq
    have hposition := (stimulus_values_distinct.1 _ hvalid).1
      (by decide : (1073740 : UInt32) < 1073741 ∧ (3 : UInt8) ≤ 3 ∧ (999 : UInt64) < 1000)
      (by decide : (0 : UInt32) < 1073741 ∧ (0 : UInt8) ≤ 3 ∧ (0 : UInt64) < 1000) heq
    cases hposition
  · obtain ⟨x, y, hne, -, -, hx, hy, heq⟩ :=
      (stimulus_values_distinct.2 4 1000 (by decide) (by decide) (by decide)).2 (by decide)
    exact ⟨x, y, hne, hx, hy, heq⟩

end OffloadBench.Config
