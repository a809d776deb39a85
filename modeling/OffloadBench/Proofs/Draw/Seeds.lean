import OffloadBench.Proofs.Draw.Rejection

/-! # Streams of seeds

Mixing a seed is a chain of steps that can each be undone, so different seeds are mixed to different
words, and since the step of the generator can be undone too, their streams differ at every place. One
seed is mixed to zero and starts where another one starts, as the state that stands in for zero is the
mix of a seed of its own; these two share their stream, and no other seed has a draw in common with it at
the same place.
-/
namespace OffloadBench.Draw

open Function

/-- A word that equals its own shift to the right is zero, so the shift can be taken off again. -/
theorem xor_shiftRight_injective {n : UInt64} (hpos : 0 < n.toNat) (hlt : n.toNat < 64) :
    Injective fun a => a ^^^ (a >>> n) := by
  intro a b h
  have hshift : a ^^^ b = (a ^^^ b) >>> n := by
    rw [← UInt64.xor_eq_zero_iff, xor_shiftRight]
    exact UInt64.xor_eq_zero_iff.2 h
  have hdiv : (a ^^^ b).toNat = (a ^^^ b).toNat / 2 ^ n.toNat := by
    rw [← Nat.shiftRight_eq_div_pow, ← Nat.mod_eq_of_lt hlt, ← UInt64.toNat_shiftRight, ← hshift]
  apply UInt64.xor_eq_zero_iff.1
  rw [← UInt64.toNat_inj]
  by_contra hne
  have hsmaller := Nat.div_lt_self (Nat.pos_of_ne_zero hne) (Nat.one_lt_two_pow hpos.ne')
  omega

theorem mul_injective {factor inverse : UInt64} (h : factor * inverse = 1) :
    Injective fun a => a * factor := by
  intro a b hab
  have hback : ∀ c, c * factor * inverse = c := by
    intro c
    rw [UInt64.mul_assoc, h, UInt64.mul_one]
  rw [← hback a, ← hback b]
  exact congrArg (· * inverse) hab

theorem mix_injective : Injective mix := by
  have hadd : Injective fun seed : UInt64 => seed + golden := fun _ _ => (UInt64.add_left_inj _).1
  have hfirst : Injective fun a : UInt64 => a * 0xBF58476D1CE4E5B9 :=
    mul_injective (show _ * 0x96DE1B173F119089 = _ by decide)
  have hsecond : Injective fun a : UInt64 => a * 0x94D049BB133111EB :=
    mul_injective (show _ * 0x319642B2D24D8EC3 = _ by decide)
  have h30 : Injective fun a : UInt64 => a ^^^ (a >>> 30) :=
    xor_shiftRight_injective (by decide) (by decide)
  have h27 : Injective fun a : UInt64 => a ^^^ (a >>> 27) :=
    xor_shiftRight_injective (by decide) (by decide)
  have h31 : Injective fun a : UInt64 => a ^^^ (a >>> 31) :=
    xor_shiftRight_injective (by decide) (by decide)
  exact h31.comp (hsecond.comp (h27.comp (hfirst.comp (h30.comp hadd))))

theorem mix_bijective : Bijective mix := Finite.injective_iff_bijective.1 mix_injective

def zeroSeed : UInt64 := 0x61C8864680B583EB

theorem mix_eq_zero_iff {seed : UInt64} : mix seed = 0 ↔ seed = zeroSeed := by
  have hzero : mix zeroSeed = 0 := by decide
  rw [← hzero, mix_injective.eq_iff]

namespace Generator

variable {seed other : UInt64}

theorem state_zeroSeed : (ofSeed zeroSeed).state = golden := by
  simp [ofSeed, mix_eq_zero_iff]

theorem state_ofSeed (h : seed ≠ zeroSeed) : (ofSeed seed).state = mix seed := by
  simp [ofSeed, mix_eq_zero_iff, h]

theorem output_eq_iff {g g' : Generator} (k : Nat) :
    g.output k = g'.output k ↔ g.state = g'.state := by
  rw [output_eq, output_eq]
  exact (advance_injective.iterate (k + 1)).eq_iff

theorem output_ne (hseed : seed ≠ zeroSeed) (hother : other ≠ zeroSeed) (h : seed ≠ other) (k : Nat) :
    (ofSeed seed).output k ≠ (ofSeed other).output k := by
  rw [ne_eq, output_eq_iff, state_ofSeed hseed, state_ofSeed hother]
  exact mix_injective.ne h

/-- Different seeds have different streams, but for the one seed that is mixed to zero. -/
theorem streams_differ :
    Bijective mix ∧ (∀ seed, (ofSeed seed).state ≠ 0) ∧
    (∀ seed, mix seed = 0 ↔ seed = 0x61C8864680B583EB) ∧
    (∀ seed other : UInt64, seed ≠ other → seed ≠ 0x61C8864680B583EB → other ≠ 0x61C8864680B583EB →
      ∀ k, (ofSeed seed).output k ≠ (ofSeed other).output k) ∧
    ∃ twin ≠ 0x61C8864680B583EB,
      (∀ k, (ofSeed twin).output k = (ofSeed 0x61C8864680B583EB).output k) ∧
      ∀ seed, seed ≠ 0x61C8864680B583EB → seed ≠ twin →
        ∀ k, (ofSeed seed).output k ≠ (ofSeed 0x61C8864680B583EB).output k := by
  refine ⟨mix_bijective, state_ofSeed_ne_zero, fun seed => mix_eq_zero_iff,
    fun seed other h hseed hother => output_ne hseed hother h, ?_⟩
  obtain ⟨twin, htwin⟩ := mix_bijective.surjective golden
  have hne : twin ≠ zeroSeed := by
    rw [ne_eq, ← mix_eq_zero_iff, htwin]
    decide
  have hshared : ∀ k, (ofSeed twin).output k = (ofSeed zeroSeed).output k := fun k =>
    (output_eq_iff k).2 (by rw [state_ofSeed hne, htwin, state_zeroSeed])
  refine ⟨twin, hne, hshared, fun seed hseed h k => ?_⟩
  change _ ≠ (ofSeed zeroSeed).output k
  rw [← hshared k]
  exact output_ne hseed hne h k

/-- Neighbouring seeds, and the seed that is mixed to zero, far along their streams. -/
theorem streams_differ_neighbours :
    (ofSeed 1).output (2 ^ 40) ≠ (ofSeed 2).output (2 ^ 40) ∧
      (ofSeed 1).output (2 ^ 40) ≠ (ofSeed 0x61C8864680B583EB).output (2 ^ 40) := by
  obtain ⟨-, -, -, hdiffer, twin, -, hshared, hfurther⟩ := streams_differ
  have htwin : 1 ≠ twin := by
    rintro rfl
    exact absurd (hshared 0) (by decide)
  exact ⟨hdiffer 1 2 (by decide) (by decide) (by decide) _, hfurther 1 (by decide) htwin _⟩

end Generator

end OffloadBench.Draw
