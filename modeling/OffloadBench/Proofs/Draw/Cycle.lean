import Mathlib.Data.List.Prime
import Mathlib.Data.Nat.Prime.Basic
import Mathlib.Data.Set.Card
import Mathlib.Dynamics.PeriodicPts.Lemmas
import Mathlib.Tactic.NormNum.Prime
import OffloadBench.Proofs.Draw.Rejection

/-! # One cycle of all states

The step is linear in the bits of the state, so powers of the step that are summed up act like
polynomials over the two-element field. The first 65 powers satisfy a relation of degree 64 at the state
one; modulo this relation any power of the step is a polynomial of 64 coefficients, found by repeated
squaring. The power 2^64 - 1 returns the state one to itself and no maximal proper divisor of it does, so
the cycle of one has as many states as there are apart from zero. It is the cycle of all of them.

No seed starts at zero. So two draws of one stream give the same value exactly if their places differ by
a multiple of 2^64 - 1, and among as many draws in a row each value other than zero comes once.
-/
namespace OffloadBench.Draw

open Function

section Polynomial

variable {α β : Type} [OfNat α 0] [XorOp α] [OfNat β 0] [XorOp β]

/-- A polynomial in a step, at a value, by Horner's rule. Its coefficients are as many binary digits of a
number as are asked for, the lowest first. -/
def horner (step : α → α) : Nat → Nat → α → α
  | 0, _, _ => 0
  | n + 1, p, a => (if p.testBit 0 then a else 0) ^^^ step (horner step n (p >>> 1) a)

def evaluate (step : α → α) (p : Nat) (a : α) : α := horner step (p.log2 + 1) p a

theorem horner_semiconj {f : α → α} {g : β → β} (φ : α → β) (hzero : φ 0 = 0)
    (hxor : ∀ a b, φ (a ^^^ b) = φ a ^^^ φ b) (hstep : Semiconj φ f g) (n p : Nat) (a : α) :
    φ (horner f n p a) = horner g n p (φ a) := by
  induction n generalizing p with
  | zero => exact hzero
  | succ n ih => rw [horner, horner, hxor, hstep.eq, ih, apply_ite φ, hzero]

end Polynomial

variable {p q n : Nat} {state : UInt64}

theorem advance_zero : advance 0 = 0 := advance_eq_zero_iff.2 rfl

theorem horner_zero (n : Nat) (state : UInt64) : horner advance n 0 state = 0 := by
  induction n with
  | zero => rfl
  | succ n ih => simp [horner, ih, advance_zero]

/-- Zeros in front of the digits add nothing. -/
theorem horner_of_lt (hp : p < 2 ^ n) {m : Nat} (hle : n ≤ m) (state : UInt64) :
    horner advance m p state = horner advance n p state := by
  induction n generalizing p m with
  | zero =>
    obtain rfl : p = 0 := by omega
    exact horner_zero m state
  | succ n ih =>
    obtain ⟨m, rfl⟩ := Nat.exists_eq_add_one.2 (Nat.zero_lt_of_lt hle)
    have hrest : p >>> 1 < 2 ^ n := by
      rw [Nat.shiftRight_eq_div_pow]
      omega
    rw [horner, horner, ih hrest (Nat.le_of_succ_le_succ hle)]

theorem evaluate_eq_horner (hp : p < 2 ^ n) (state : UInt64) :
    evaluate advance p state = horner advance n p state := by
  rcases Nat.le_total n (p.log2 + 1) with hle | hle
  · exact horner_of_lt hp hle state
  · exact (horner_of_lt Nat.lt_log2_self hle state).symm

theorem horner_xor (n p q : Nat) (state : UInt64) :
    horner advance n (p ^^^ q) state = horner advance n p state ^^^ horner advance n q state := by
  induction n generalizing p q with
  | zero => simp [horner]
  | succ n ih =>
    have hdigit : (if (p ^^^ q).testBit 0 then state else 0) =
        (if p.testBit 0 then state else 0) ^^^ (if q.testBit 0 then state else 0) := by
      rw [Nat.testBit_xor]
      cases p.testBit 0 <;> cases q.testBit 0 <;> simp
    rw [horner, horner, horner, Nat.shiftRight_xor_distrib, ih, advance_xor, hdigit]
    ac_rfl

theorem evaluate_xor (p q : Nat) (state : UInt64) :
    evaluate advance (p ^^^ q) state = evaluate advance p state ^^^ evaluate advance q state := by
  have hp : p < 2 ^ (p + q) := Nat.lt_of_le_of_lt (Nat.le_add_right p q) Nat.lt_two_pow_self
  have hq : q < 2 ^ (p + q) := Nat.lt_of_le_of_lt (Nat.le_add_left q p) Nat.lt_two_pow_self
  rw [evaluate_eq_horner hp, evaluate_eq_horner hq, evaluate_eq_horner (Nat.xor_lt_two_pow hp hq),
    horner_xor]

theorem evaluate_two_mul (p : Nat) (state : UInt64) :
    evaluate advance (2 * p) state = advance (evaluate advance p state) := by
  have hdigits : 2 * p < 2 ^ (p.log2 + 1 + 1) := by
    have := @Nat.lt_log2_self p
    omega
  have hlast : (2 * p).testBit 0 = false := by simp
  have hrest : (2 * p) >>> 1 = p := by simp [Nat.shiftRight_eq_div_pow]
  rw [evaluate_eq_horner hdigits, horner, hlast, hrest]
  simp [evaluate]

theorem iterate_evaluate (k p : Nat) (state : UInt64) :
    advance^[k] (evaluate advance p state) = evaluate advance p (advance^[k] state) :=
  horner_semiconj advance^[k] (iterate_fixed advance_zero k) (iterate_xor k)
    (Commute.iterate_self advance k) _ _ _

section Power

/-- The relation among the powers of the step at the state one. -/
def relation : Nat := 0x1013ED4A358913201

def shift (p : Nat) : Nat := if p < 2 ^ 63 then 2 * p else (2 * p) ^^^ relation

/-- The power of the variable with the given exponent, modulo the relation. The exponent is read by as
many binary digits as are asked for. -/
def power : Nat → Nat → Nat
  | 0, _ => 1
  | n + 1, e =>
    let half := power n (e >>> 1)
    let square := evaluate shift half half
    if e.testBit 0 then shift square else square

theorem evaluate_relation : evaluate advance relation 1 = 0 := by decide +kernel

theorem evaluate_shift (p : Nat) :
    evaluate advance (shift p) 1 = advance (evaluate advance p 1) := by
  unfold shift
  split
  · exact evaluate_two_mul p 1
  · rw [evaluate_xor, evaluate_relation, UInt64.xor_zero, evaluate_two_mul]

theorem evaluate_product (p q : Nat) :
    evaluate advance (evaluate shift p q) 1 = evaluate advance p (evaluate advance q 1) :=
  horner_semiconj (fun p => evaluate advance p 1) (by decide) (fun p q => evaluate_xor p q 1)
    evaluate_shift _ _ _

theorem evaluate_power {e : Nat} (he : e < 2 ^ n) :
    evaluate advance (power n e) 1 = advance^[e] 1 := by
  induction n generalizing e with
  | zero =>
    obtain rfl : e = 0 := by omega
    decide
  | succ n ih =>
    have hhalf : evaluate advance (power n (e >>> 1)) 1 = advance^[e >>> 1] 1 := by
      apply ih
      rw [Nat.shiftRight_eq_div_pow]
      omega
    have hsquare : evaluate advance (evaluate shift (power n (e >>> 1)) (power n (e >>> 1))) 1 =
        advance^[e >>> 1 + e >>> 1] 1 := by
      rw [evaluate_product, iterate_add_apply, ← hhalf, iterate_evaluate, ← hhalf]
    unfold power
    dsimp only
    rw [Nat.testBit_zero]
    by_cases hodd : e % 2 = 1
    · have hdouble : e = e >>> 1 + e >>> 1 + 1 := by
        rw [Nat.shiftRight_eq_div_pow]
        omega
      rw [if_pos (decide_eq_true hodd), evaluate_shift, hsquare, ← iterate_succ_apply' advance,
        Nat.succ_eq_add_one, ← hdouble]
    · have hdouble : e = e >>> 1 + e >>> 1 := by
        rw [Nat.shiftRight_eq_div_pow]
        omega
      rw [if_neg (by simpa using hodd), hsquare, ← hdouble]

end Power

section Period

/-- A point that comes back has no smaller period if it is elsewhere after every maximal proper part of
the way. -/
theorem minimalPeriod_eq_of_prime {α : Type} {f : α → α} {a : α} (hback : IsPeriodicPt f n a)
    (haway : ∀ q, q.Prime → q ∣ n → ¬ IsPeriodicPt f (n / q) a) : minimalPeriod f a = n := by
  obtain ⟨k, hk⟩ := hback.minimalPeriod_dvd
  by_contra hne
  have hk1 : k ≠ 1 := by
    rintro rfl
    exact hne (by rw [hk, Nat.mul_one])
  obtain ⟨q, hq, m, rfl⟩ := Nat.exists_prime_and_dvd hk1
  refine haway q hq ⟨minimalPeriod f a * m, ?_⟩ ?_
  · rw [hk]
    ring
  · rw [isPeriodicPt_iff_minimalPeriod_dvd]
    refine ⟨m, ?_⟩
    apply Nat.div_eq_of_eq_mul_right hq.pos
    rw [hk]
    ring

def factors : List Nat := [3, 5, 17, 257, 641, 65537, 6700417]

theorem longestCycle_eq : longestCycle = 2 ^ 64 - 1 := rfl

theorem mem_factors_of_prime (hq : q.Prime) (h : q ∣ longestCycle) : q ∈ factors := by
  have hprod : longestCycle = factors.prod := by decide
  have hprimes : ∀ r ∈ factors, r.Prime := by
    simp only [factors, List.forall_mem_cons]
    norm_num
  rw [hprod] at h
  obtain ⟨r, hr, hqr⟩ := hq.prime.dvd_prod_iff.1 h
  rwa [(Nat.prime_dvd_prime_iff_eq hq (hprimes r hr)).1 hqr]

theorem power_longestCycle : evaluate advance (power 64 longestCycle) 1 = 1 := by decide +kernel

theorem power_div_factor : ∀ q ∈ factors, evaluate advance (power 64 (longestCycle / q)) 1 ≠ 1 := by
  decide +kernel

theorem minimalPeriod_one : minimalPeriod advance 1 = longestCycle := by
  apply minimalPeriod_eq_of_prime
  · rw [IsPeriodicPt, IsFixedPt, ← evaluate_power (show longestCycle < 2 ^ 64 by decide)]
    exact power_longestCycle
  · intro q hq hdvd hback
    have hlt : longestCycle / q < 2 ^ 64 :=
      Nat.lt_of_le_of_lt (Nat.div_le_self _ _) (by decide)
    apply power_div_factor q (mem_factors_of_prime hq hdvd)
    rwa [evaluate_power hlt]

end Period

section Orbit

theorem iterate_ne_zero (h : state ≠ 0) (k : Nat) : advance^[k] state ≠ 0 := by
  cases k with
  | zero => exact h
  | succ k => exact raw_ne_zero h k

theorem bijOn_advance : Set.BijOn advance {0}ᶜ {0}ᶜ := by
  refine ⟨fun state => mt advance_eq_zero_iff.1, advance_injective.injOn, fun target htarget => ?_⟩
  obtain ⟨state, rfl⟩ := Finite.injective_iff_surjective.1 advance_injective target
  exact ⟨state, mt advance_eq_zero_iff.2 htarget, rfl⟩

theorem ncard_nonzero : ({0}ᶜ : Set UInt64).ncard = longestCycle := by
  have hall := Set.ncard_add_ncard_compl ({0} : Set UInt64)
  rw [Set.ncard_singleton, card_word] at hall
  exact (Nat.sub_eq_of_eq_add' hall.symm).symm

theorem exists_iterate_eq (hperiod : minimalPeriod advance state = longestCycle) (h : state ≠ 0)
    {target : UInt64} (htarget : target ≠ 0) : ∃ k, advance^[k] state = target := by
  have hinj : (Set.Iio longestCycle).InjOn fun k => advance^[k] state := by
    rw [← hperiod]
    exact iterate_injOn_Iio_minimalPeriod
  have horbit : (fun k => advance^[k] state) '' Set.Iio longestCycle = {0}ᶜ := by
    apply Set.eq_of_subset_of_ncard_le _ _ (Set.toFinite _)
    · rintro _ ⟨k, -, rfl⟩
      exact iterate_ne_zero h k
    · rw [hinj.ncard_image, ncard_nonzero, ← Finset.coe_range, Set.ncard_coe_finset,
        Finset.card_range]
  obtain ⟨k, -, hk⟩ := horbit.symm.subset htarget
  exact ⟨k, hk⟩

theorem minimalPeriod_advance (h : state ≠ 0) : minimalPeriod advance state = longestCycle := by
  obtain ⟨k, rfl⟩ := exists_iterate_eq minimalPeriod_one (by decide) h
  rw [minimalPeriod_apply_iterate, minimalPeriod_one]
  exact minimalPeriod_pos_iff_mem_periodicPts.1 (by rw [minimalPeriod_one]; decide)

theorem iterate_eq_iterate_iff (h : state ≠ 0) {i j : Nat} :
    advance^[i] state = advance^[j] state ↔ i ≡ j [MOD longestCycle] := by
  have hperiod := minimalPeriod_advance h
  have hmod : ∀ k, advance^[k % longestCycle] state = advance^[k] state := by
    intro k
    rw [← hperiod, iterate_mod_minimalPeriod_eq]
  have hlt : ∀ k, k % longestCycle < minimalPeriod advance state := by
    intro k
    rw [hperiod]
    exact Nat.mod_lt _ (by decide)
  rw [← hmod i, ← hmod j, iterate_eq_iterate_iff_of_lt_minimalPeriod (hlt i) (hlt j), Nat.ModEq]

/-- Every window of the length of the cycle has each state once. -/
theorem existsUnique_iterate (h : state ≠ 0) {target : UInt64} (htarget : target ≠ 0) (start : Nat) :
    ∃! k, (start ≤ k ∧ k < start + longestCycle) ∧ advance^[k] state = target := by
  obtain ⟨j, hj⟩ :=
    exists_iterate_eq (minimalPeriod_advance (iterate_ne_zero h start)) (iterate_ne_zero h start) htarget
  rw [← iterate_add_apply] at hj
  have hmod : j % longestCycle < longestCycle := Nat.mod_lt _ (by decide)
  have hplace : advance^[start + j % longestCycle] state = target := by
    rw [← hj, iterate_eq_iterate_iff h, Nat.add_comm j]
    exact (Nat.mod_modEq j longestCycle).add_left start
  refine ⟨start + j % longestCycle, ⟨⟨Nat.le_add_right _ _, Nat.add_lt_add_left hmod _⟩, hplace⟩, ?_⟩
  rintro k ⟨⟨hle, hlt⟩, hk⟩
  obtain ⟨d, rfl⟩ := Nat.exists_eq_add_of_le hle
  have hsame := (iterate_eq_iterate_iff h).1 (hk.trans hplace.symm)
  rw [hsame.add_left_cancel'.eq_of_lt_of_lt (Nat.lt_of_add_lt_add_left hlt) hmod]

end Orbit

namespace Generator

/-- The generator runs through all states apart from zero in one cycle, and zero is never drawn. -/
theorem outputs_cycle :
    (∀ g : Generator, g.state = 0 → g.next = (0, g)) ∧
    Set.BijOn advance {0}ᶜ {0}ᶜ ∧ ({0}ᶜ : Set UInt64).ncard = 2 ^ 64 - 1 ∧
    (∀ state target : UInt64, state ≠ 0 → target ≠ 0 →
      ∃! k, k < 2 ^ 64 - 1 ∧ advance^[k] state = target) ∧
    (∀ seed, (ofSeed seed).state ≠ 0) ∧
    ∀ g : Generator, g.state ≠ 0 →
      (∀ k, g.output k ≠ 0) ∧
      (∀ i j, g.output i = g.output j ↔ i ≡ j [MOD 2 ^ 64 - 1]) ∧
      ∀ start, ∀ value ≠ 0,
        ∃! k, (start ≤ k ∧ k < start + (2 ^ 64 - 1)) ∧ g.output k = value := by
  rw [← longestCycle_eq]
  refine ⟨fun g hg => ?_, bijOn_advance, ncard_nonzero, fun state target hstate htarget => ?_,
    state_ofSeed_ne_zero, fun g hg => ⟨fun k => ?_, fun i j => ?_, fun start value hvalue => ?_⟩⟩
  · obtain ⟨seed, state⟩ := g
    obtain rfl : state = 0 := hg
    rw [next, advance_zero]
  · simpa using existsUnique_iterate hstate htarget 0
  · rw [output_eq]
    exact raw_ne_zero hg k
  · simp only [output_eq, raw, iterate_succ_apply]
    exact iterate_eq_iterate_iff (mt advance_eq_zero_iff.1 hg)
  · simp only [output_eq, raw, iterate_succ_apply]
    exact existsUnique_iterate (mt advance_eq_zero_iff.1 hg) hvalue start

/-- The seed zero: the fourth draw comes back with the period and not after a third of it, and the value
one is drawn. -/
theorem outputs_cycle_seedZero :
    let g := ofSeed 0
    g.state ≠ 0 ∧ (⟨7, 0⟩ : Generator).next = (0, ⟨7, 0⟩) ∧
      (∃ k < 2 ^ 64 - 1, advance^[k] golden = 1) ∧ (∀ k, g.output k ≠ 0) ∧
      g.output (3 + (2 ^ 64 - 1)) = g.output 3 ∧ g.output (3 + (2 ^ 64 - 1) / 3) ≠ g.output 3 ∧
      ∃ k < 2 ^ 64 - 1, g.output k = 1 := by
  intro g
  obtain ⟨hzero, -, -, hcycle, hseed, houtput⟩ := outputs_cycle
  obtain ⟨hne, hperiod, hwindow⟩ := houtput g (hseed 0)
  obtain ⟨steps, ⟨hsteps, hone⟩, -⟩ := hcycle golden 1 (by decide) (by decide)
  obtain ⟨k, ⟨⟨-, hk⟩, hdrawn⟩, -⟩ := hwindow 0 1 (by decide)
  rw [Nat.zero_add] at hk
  exact ⟨hseed 0, hzero _ rfl, ⟨steps, hsteps, hone⟩, hne, (hperiod _ _).2 (by decide),
    mt (hperiod _ _).1 (by decide), k, hk, hdrawn⟩

end Generator

end OffloadBench.Draw
