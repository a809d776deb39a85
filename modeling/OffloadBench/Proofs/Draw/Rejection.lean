import Mathlib.Data.FinEnum
import Mathlib.Data.Int.CardIntervalMod
import Mathlib.Data.Set.Card
import Mathlib.SetTheory.Cardinal.Finite
import OffloadBench.Draw.Generator

/-! # Rejected values

A bounded draw passes over raw values at or above its limit and gives the remainder of the first one
below it. The limit is a multiple of the bound and at least half of the range of raw values. A draw
without an end would therefore see the highest bit set in every value. The step is linear in the bits of
the state, and the highest bits of 64 values in a row tell the state before them; so one state alone is
followed by 64 values with that bit set, and the value after these has it clear. Every draw ends, with
the 65th value at the latest. Below the limit stand whole blocks of the bound, so each result has the
same number of raw values.
-/
namespace OffloadBench.Draw

theorem xor_shiftLeft (a b n : UInt64) :
    (a ^^^ b) ^^^ ((a ^^^ b) <<< n) = (a ^^^ (a <<< n)) ^^^ (b ^^^ (b <<< n)) := by
  rw [UInt64.shiftLeft_xor]
  ac_rfl

theorem xor_shiftRight (a b n : UInt64) :
    (a ^^^ b) ^^^ ((a ^^^ b) >>> n) = (a ^^^ (a >>> n)) ^^^ (b ^^^ (b >>> n)) := by
  rw [UInt64.shiftRight_xor]
  ac_rfl

/-- Each of the three parts of the step is linear. -/
theorem advance_xor (a b : UInt64) : advance (a ^^^ b) = advance a ^^^ advance b := by
  unfold advance
  dsimp only
  rw [xor_shiftLeft a b 13, xor_shiftRight _ _ 7, xor_shiftLeft _ _ 17]

theorem iterate_xor (k : Nat) (a b : UInt64) :
    advance^[k] (a ^^^ b) = advance^[k] a ^^^ advance^[k] b := by
  induction k generalizing a b with
  | zero => rfl
  | succ k ih => simp only [Function.iterate_succ_apply, advance_xor, ih]

def raw (state : UInt64) (k : Nat) : UInt64 := advance^[k + 1] state

theorem raw_zero (state : UInt64) : raw state 0 = advance state := rfl

theorem raw_advance (state : UInt64) (k : Nat) : raw (advance state) k = raw state (k + 1) := rfl

theorem raw_iterate (state : UInt64) (n k : Nat) : raw (advance^[n] state) k = raw state (k + n) := by
  rw [raw, raw, ← Function.iterate_add_apply, Nat.add_right_comm]

theorem raw_xor (a b : UInt64) (k : Nat) : raw (a ^^^ b) k = raw a k ^^^ raw b k := iterate_xor _ a b

section HighBits

def isHigh (value : UInt64) : Bool := value.toNat.testBit 63

theorem isHigh_iff (value : UInt64) : isHigh value = true ↔ 2 ^ 63 ≤ value.toNat := by
  have hlt := value.toNat_lt
  rw [isHigh, Nat.testBit_eq_decide_div_mod_eq, decide_eq_true_iff]
  omega

theorem isHigh_xor (a b : UInt64) : isHigh (a ^^^ b) = (isHigh a ^^ isHigh b) := by
  rw [isHigh, UInt64.toNat_xor, Nat.testBit_xor, isHigh, isHigh]

/-- Of the 64 values behind this state the last one alone is high. -/
def lastHigh : UInt64 := 0xABA58ACEFA911CAB

def allHigh : UInt64 := 0x48B11BF6023855B0

theorem isHigh_lastHigh : ∀ k < 64, isHigh (raw lastHigh k) = decide (k = 63) := by
  decide +kernel

theorem isHigh_allHigh : ∀ k < 65, isHigh (raw allHigh k) = decide (k < 64) := by
  decide +kernel

/-- Some state is followed by values that are high and low as one likes. The value with which they
first differ is turned by the state that leaves all values before it as they are. -/
theorem exists_isHigh_eq (want : Nat → Bool) {n : Nat} (hn : n ≤ 64) :
    ∃ state, ∀ k < n, isHigh (raw state k) = want k := by
  induction n with
  | zero => exact ⟨0, by simp⟩
  | succ n ih =>
    obtain ⟨state, hstate⟩ := ih (Nat.le_of_succ_le hn)
    by_cases hnext : isHigh (raw state n) = want n
    · refine ⟨state, fun k hk => ?_⟩
      rcases Nat.lt_succ_iff_lt_or_eq.1 hk with hlt | rfl
      · exact hstate k hlt
      · exact hnext
    · refine ⟨state ^^^ advance^[63 - n] lastHigh, fun k hk => ?_⟩
      rw [raw_xor, isHigh_xor, raw_iterate, isHigh_lastHigh _ (by omega)]
      rcases Nat.lt_succ_iff_lt_or_eq.1 hk with hlt | rfl
      · rw [hstate k hlt, decide_eq_false (by omega), Bool.xor_false]
      · rw [decide_eq_true (by omega), Bool.xor_true]
        exact Bool.not_eq.2 hnext

def highs (state : UInt64) (k : Fin 64) : Bool := isHigh (raw state k)

theorem highs_surjective : Function.Surjective highs := by
  intro pattern
  obtain ⟨state, hstate⟩ := exists_isHigh_eq
    (fun k => if h : k < 64 then pattern ⟨k, h⟩ else false) (Nat.le_refl 64)
  refine ⟨state, funext fun k => ?_⟩
  rw [highs, hstate k k.isLt, dif_pos k.isLt]

theorem card_word : Nat.card UInt64 = UInt64.size := by
  rw [Nat.card_congr (⟨UInt64.toFin, UInt64.ofFin, fun _ => rfl, fun _ => rfl⟩ :
    UInt64 ≃ Fin UInt64.size), Nat.card_fin]

theorem card_word_le : Nat.card UInt64 ≤ Nat.card (Fin 64 → Bool) := by
  rw [card_word, ← show Nat.card (Fin 64 → Bool) = UInt64.size by simp]

/-- There are as many patterns as states, so a pattern tells the state. -/
theorem highs_injective : Function.Injective highs :=
  (highs_surjective.bijective_of_nat_card_le card_word_le).injective

end HighBits

theorem advance_eq_zero_iff {state : UInt64} : advance state = 0 ↔ state = 0 := by
  have hzero : advance 0 = 0 := by decide
  constructor
  · intro h
    apply highs_injective
    funext k
    rw [highs, highs, raw, raw, Function.iterate_succ_apply, Function.iterate_succ_apply, h, hzero]
  · rintro rfl
    exact hzero

theorem advance_injective : Function.Injective advance := by
  intro a b h
  have hdifference : advance (a ^^^ b) = 0 := by rw [advance_xor, h, UInt64.xor_self]
  exact UInt64.xor_eq_zero_iff.1 (advance_eq_zero_iff.1 hdifference)

theorem raw_ne_zero {state : UInt64} (h : state ≠ 0) (k : Nat) : raw state k ≠ 0 := by
  induction k generalizing state with
  | zero => exact mt advance_eq_zero_iff.1 h
  | succ k ih => exact ih (mt advance_eq_zero_iff.1 h)

/-- No state is followed by 65 high values. -/
theorem exists_low (state : UInt64) : ∃ k < 65, (raw state k).toNat < 2 ^ 63 := by
  by_contra hnone
  have hhigh : ∀ k < 65, isHigh (raw state k) = true := fun k hk =>
    (isHigh_iff _).2 (Nat.not_lt.1 fun hlow => hnone ⟨k, hk, hlow⟩)
  have hstate : state = allHigh := by
    apply highs_injective
    funext k
    rw [highs, highs, hhigh k (by omega), isHigh_allHigh k (by omega), decide_eq_true k.isLt]
  have hlast := hhigh 64 (by decide)
  rw [hstate, isHigh_allHigh 64 (by decide)] at hlast
  exact absurd hlast (by decide)

section Limit

variable {bound : Nat}

theorem acceptLimit_eq (bound : Nat) : acceptLimit bound = bound * ((2 ^ 64 - 1) / bound) :=
  Nat.sub_eq_of_eq_add (Nat.div_add_mod (2 ^ 64 - 1) bound).symm

/-- Less than the bound is cut off, and at least one block is left. -/
theorem half_le_acceptLimit (hpos : 0 < bound) (hlt : bound < 2 ^ 64) :
    2 ^ 63 ≤ acceptLimit bound := by
  rcases Nat.lt_or_ge bound (2 ^ 63) with hhalf | hhalf
  · have hcut := Nat.mod_lt (2 ^ 64 - 1) hpos
    change 2 ^ 63 ≤ 2 ^ 64 - 1 - (2 ^ 64 - 1) % bound
    omega
  · have hblock : 1 ≤ (2 ^ 64 - 1) / bound := (Nat.one_le_div_iff hpos).2 (by omega)
    rw [acceptLimit_eq]
    exact Nat.le_trans hhalf (Nat.le_mul_of_pos_right _ hblock)

theorem acceptLimit_lt (bound : Nat) : acceptLimit bound < 2 ^ 64 :=
  Nat.lt_of_le_of_lt (Nat.sub_le _ _) (by decide)

/-- The raw values that a bounded draw takes for a result. -/
def sources (bound r : Nat) : Set UInt64 :=
  {value | value.toNat < acceptLimit bound ∧ value.toNat % bound = r}

theorem image_sources {r : Nat} (hr : r < bound) :
    UInt64.toNat '' sources bound r =
      ({n ∈ Finset.range (acceptLimit bound) | n ≡ r [MOD bound]} : Finset Nat) := by
  ext n
  simp only [Set.mem_image, sources, Set.mem_ofPred_eq, Finset.coe_filter, Finset.mem_range,
    Nat.ModEq, Nat.mod_eq_of_lt hr]
  constructor
  · rintro ⟨value, hvalue, rfl⟩
    exact hvalue
  · rintro hn
    have hword : (UInt64.ofNat n).toNat = n :=
      UInt64.toNat_ofNat_of_lt' (Nat.lt_trans hn.1 (acceptLimit_lt bound))
    exact ⟨UInt64.ofNat n, by rwa [hword], hword⟩

theorem ncard_sources {r : Nat} (hr : r < bound) :
    (sources bound r).ncard = acceptLimit bound / bound := by
  have hpos : 0 < bound := Nat.zero_lt_of_lt hr
  have hwhole : acceptLimit bound % bound = 0 := by rw [acceptLimit_eq, Nat.mul_mod_right]
  rw [← Set.ncard_image_of_injective _ fun _ _ => UInt64.toNat_inj.1, image_sources hr,
    Set.ncard_coe_finset, ← Nat.count_eq_card_filter_range, Nat.count_modEq_card _ hpos, hwhole,
    if_neg (Nat.not_lt_zero _), Nat.add_zero]

end Limit

/-- The place of the first value below a limit, among those that follow a state. -/
structure FirstBelow (limit : Nat) (state : UInt64) (k : Nat) : Prop where
  rejected : ∀ i < k, limit ≤ (raw state i).toNat
  accepted : (raw state k).toNat < limit

variable {limit k : Nat} {state : UInt64}

theorem FirstBelow.unique {j : Nat} (h : FirstBelow limit state k) (h' : FirstBelow limit state j) :
    k = j := by
  rcases Nat.lt_trichotomy k j with hlt | heq | hlt
  · exact absurd h.accepted (Nat.not_lt.2 (h'.rejected k hlt))
  · exact heq
  · exact absurd h'.accepted (Nat.not_lt.2 (h.rejected j hlt))

/-- The loop takes the first value below the limit, however many steps it may still make. -/
theorem FirstBelow.firstBelow_eq (h : FirstBelow limit state k) {steps : Nat} (hsteps : k < steps) :
    firstBelow limit steps state = raw state k := by
  induction k generalizing state steps with
  | zero =>
    obtain ⟨steps, rfl⟩ := Nat.exists_eq_add_one.2 hsteps
    have haccepted : (advance state).toNat < limit := h.accepted
    rw [firstBelow, if_pos haccepted, raw_zero]
  | succ k ih =>
    obtain ⟨steps, rfl⟩ := Nat.exists_eq_add_one.2 (Nat.zero_lt_of_lt hsteps)
    have hrejected : ¬ (advance state).toNat < limit := Nat.not_lt.2 (h.rejected 0 k.succ_pos)
    rw [firstBelow, if_neg hrejected, ← raw_advance]
    exact ih ⟨fun i hi => h.rejected (i + 1) (Nat.succ_lt_succ hi), h.accepted⟩
      (Nat.lt_of_succ_lt_succ hsteps)

theorem exists_firstBelow (hlimit : 2 ^ 63 ≤ limit) (state : UInt64) :
    ∃ k ≤ 64, FirstBelow limit state k := by
  obtain ⟨j, hj, hlow⟩ := exists_low state
  have hsome : ∃ k, (raw state k).toNat < limit := ⟨j, Nat.lt_of_lt_of_le hlow hlimit⟩
  refine ⟨Nat.find hsome, ?_, fun i hi => Nat.not_lt.1 (Nat.find_min hsome hi), Nat.find_spec hsome⟩
  exact Nat.le_trans (Nat.find_min' hsome (Nat.lt_of_lt_of_le hlow hlimit)) (Nat.le_of_lt_succ hj)

namespace Generator

def output (g : Generator) (k : Nat) : UInt64 := ((fun g => g.next.2)^[k] g).next.1

theorem output_eq (g : Generator) (k : Nat) : g.output k = raw g.state k := by
  induction k generalizing g with
  | zero => rfl
  | succ k ih => exact ih g.next.2

theorem below_of_firstBelow {g : Generator} {bound : Nat}
    (h : FirstBelow (acceptLimit bound) g.state k) (hk : k ≤ 64) :
    g.below bound = ((raw g.state k).toNat % bound, { g with state := raw g.state k }) := by
  have hsteps : k < longestCycle := Nat.lt_of_le_of_lt hk (by decide)
  rw [below, h.firstBelow_eq hsteps]

theorem below?_of_pos (g : Generator) {bound : Nat} (h : 0 < bound) :
    g.below? bound = .ok (g.below bound) := if_neg (Nat.ne_of_gt h)

/-- The generators that a seed leads to by draws, with and without a bound. -/
inductive Reached (seed : UInt64) : Generator → Prop
  | start : Reached seed (ofSeed seed)
  | draw {g : Generator} (h : Reached seed g) : Reached seed g.next.2
  | drawBelow {g g' : Generator} {bound n : Nat} (h : Reached seed g)
    (hlt : bound < 2 ^ 64) (hbelow : g.below? bound = .ok (n, g')) : Reached seed g'

theorem state_ofSeed_ne_zero (seed : UInt64) : (ofSeed seed).state ≠ 0 := by
  unfold ofSeed
  dsimp only
  split
  · decide
  · assumption

theorem Reached.state_ne_zero {seed : UInt64} {g : Generator} (h : Reached seed g) :
    g.state ≠ 0 := by
  induction h with
  | start => exact state_ofSeed_ne_zero seed
  | draw _ ih => exact mt advance_eq_zero_iff.1 ih
  | @drawBelow g g' bound n _ hlt hbelow ih =>
    rcases Nat.eq_zero_or_pos bound with rfl | hpos
    · cases hbelow
    · obtain ⟨k, hk, hfirst⟩ := exists_firstBelow (half_le_acceptLimit hpos hlt) g.state
      rw [g.below?_of_pos hpos, below_of_firstBelow hfirst hk] at hbelow
      cases hbelow
      exact raw_ne_zero ih k

/-- A bounded draw ends within 65 raw values, stays in range and favours no result. -/
theorem below_exact {bound : Nat} (hpos : 1 ≤ bound) (hlt : bound < 2 ^ 64) :
    (∀ g : Generator, ∃ k ≤ 64, FirstBelow (acceptLimit bound) g.state k ∧
      (∀ steps, k < steps → firstBelow (acceptLimit bound) steps g.state = raw g.state k) ∧
      g.below? bound = .ok ((raw g.state k).toNat % bound, { g with state := raw g.state k }) ∧
      (raw g.state k).toNat % bound < bound) ∧
    (∀ (seed : UInt64) (g : Generator), Reached seed g → g.state ≠ 0) ∧
    (0 < acceptLimit bound ∧ bound ∣ acceptLimit bound ∧ 2 ^ 63 ≤ acceptLimit bound) ∧
    ∀ r < bound,
      {value : UInt64 | value.toNat < acceptLimit bound ∧ value.toNat % bound = r}.ncard =
        acceptLimit bound / bound := by
  have hhalf := half_le_acceptLimit hpos hlt
  refine ⟨fun g => ?_, fun seed g => Reached.state_ne_zero, ⟨by omega, ?_, hhalf⟩,
    fun r => ncard_sources⟩
  · obtain ⟨k, hk, hfirst⟩ := exists_firstBelow hhalf g.state
    refine ⟨k, hk, hfirst, fun steps => hfirst.firstBelow_eq, ?_, Nat.mod_lt _ hpos⟩
    rw [g.below?_of_pos hpos, below_of_firstBelow hfirst hk]
  · rw [acceptLimit_eq]
    exact Nat.dvd_mul_right _ _

/-- Below half of the range no draw is longer than the one from the state with 64 high values. -/
theorem below_exact_slowest :
    let g : Generator := ⟨0, allHigh⟩
    1 ≤ 2 ^ 63 ∧ 2 ^ 63 < 2 ^ 64 ∧ acceptLimit (2 ^ 63) = 2 ^ 63 ∧
      FirstBelow (acceptLimit (2 ^ 63)) g.state 64 ∧
      (∃ n g', g.below? (2 ^ 63) = .ok (n, g') ∧ n < 2 ^ 63 ∧ g'.state = raw allHigh 64) ∧
      {value : UInt64 | value.toNat < acceptLimit (2 ^ 63) ∧ value.toNat % 2 ^ 63 = 5}.ncard = 1 := by
  intro g
  have hlimit : acceptLimit (2 ^ 63) = 2 ^ 63 := by decide
  obtain ⟨hdraw, -, -, hcount⟩ := below_exact (show 1 ≤ 2 ^ 63 by decide) (by decide)
  have hfirst : FirstBelow (acceptLimit (2 ^ 63)) g.state 64 := by
    rw [hlimit]
    constructor
    · intro i hi
      rw [← isHigh_iff, isHigh_allHigh i (by omega), decide_eq_true hi]
    · rw [← Nat.not_le, ← isHigh_iff, isHigh_allHigh 64 (by decide)]
      decide
  obtain ⟨k, -, hk, -, hbelow, hrange⟩ := hdraw g
  obtain rfl := hk.unique hfirst
  refine ⟨by decide, by decide, hlimit, hfirst, ⟨_, _, hbelow, hrange, rfl⟩, ?_⟩
  rw [hcount 5 (by decide), hlimit]
  decide

end Generator

end OffloadBench.Draw
