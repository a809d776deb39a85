import OffloadBench.Proofs.Status.Words

/-! # Codes that a word keeps

The word of a failure has room for 63 bits above its lowest, and a code has 64. A code below 2 ^ 63 is
read back from its word. Of a greater one the highest bit is lost, and of 2 ^ 63 itself nothing is left:
its word is that of success.
-/
namespace OffloadBench.StatusWord

theorem kept_eq_iff {code : UInt64} : kept code = (packed code).toNat ↔ code.toNat < 2 ^ 63 := by
  rw [kept, packed]
  split
  · rename_i h
    rw [h]
    exact iff_of_true (by decide) (by decide)
  · omega

theorem kept_eq_zero_iff {code : UInt64} : kept code = 0 ↔ code.toNat = 2 ^ 63 := by
  have hlt := code.toNat_lt
  by_cases h : code = 0
  · rw [h]
    decide
  · have hpos : code.toNat ≠ 0 := fun hzero => h (UInt64.toNat_inj.1 hzero)
    rw [kept, packed_of_ne h]
    omega

/-- The word of a failure is not that of success and gives the code back, or for a code of zero its
stand-in, exactly if the code is below 2 ^ 63. The word of 2 ^ 63 is that of success, and it alone.
What any word gives back is its code without the highest bit. -/
theorem failure_keeps_iff (code : UInt64) :
    (failure code ≠ success ∧ (failure code).isSuccess = false ∧
        (failure code).failureCode? = some (if code = 0 then fallbackCode else code) ↔
      code.toNat < 2 ^ 63) ∧
    (failure code = success ↔ code.toNat = 2 ^ 63) ∧
    (failure code).failureCode? =
      if code = 0 then some fallbackCode
      else if code.toNat = 2 ^ 63 then none
      else some (UInt64.ofNat (code.toNat % 2 ^ 63)) := by
  refine ⟨⟨?keptCode, ?fits⟩, failure_eq_success_iff.trans kept_eq_zero_iff, ?reads⟩
  case keptCode =>
    rintro ⟨-, -, hcode⟩
    rw [failureCode?_failure_eq] at hcode
    split at hcode
    · cases hcode
    · rw [← kept_eq_iff, packed, ← Option.some_inj.1 hcode]
      exact (UInt64.toNat_ofNat_of_lt' (Nat.lt_trans (kept_lt code) (by decide))).symm
  case fits =>
    intro hlt
    have hne : failure code ≠ success :=
      fun h => Nat.ne_of_lt hlt (kept_eq_zero_iff.1 (failure_eq_success_iff.1 h))
    refine ⟨hne, Bool.eq_false_iff.2 (mt isSuccess_eq_true_iff.1 hne), ?_⟩
    rw [failureCode?_failure_eq, if_neg (mt failure_eq_success_iff.2 hne), kept_eq_iff.2 hlt,
      UInt64.ofNat_toNat, packed]
  case reads =>
    rw [failureCode?_failure_eq]
    by_cases hzero : code = 0
    · subst hzero
      decide
    · rw [if_neg hzero]
      simp only [kept_eq_zero_iff]
      rw [kept, packed_of_ne hzero]

/-- The first code without room: its failure reads as success. The next one reads as code 1. -/
theorem failure_loses_highestBit :
    failure 0x8000000000000000 = success ∧ (failure 0x8000000000000000).isSuccess = true ∧
      (failure 0x8000000000000000).failureCode? = none ∧
      (failure 0x8000000000000001).failureCode? = some 1 := by
  decide

end OffloadBench.StatusWord
