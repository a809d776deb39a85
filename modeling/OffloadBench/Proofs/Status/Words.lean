import OffloadBench.Status
import Mathlib.Algebra.Ring.Nat

/-! # Words of failures

A word keeps 63 bits of the code that it is made of, and gives them back. A failure code keeps the test
set, the phase and the class of its fault apart in fewer bits than that. So the word of a fault never
reads as success, and a status file never does unless its word is that of success.
-/
namespace OffloadBench

/-- A number above a number of fewer bits: the two do not mix. -/
theorem toNat_packed {high low : UInt64} (bits : Nat) (hbits : bits < 64)
    (hlow : low.toNat < 2 ^ bits) (hfit : high.toNat * 2 ^ bits < 2 ^ 64) :
    ((high <<< UInt64.ofNat bits) ||| low).toNat = high.toNat * 2 ^ bits + low.toNat := by
  have hshift : (UInt64.ofNat bits).toNat % 64 = bits := by
    rw [UInt64.toNat_ofNat']
    omega
  rw [UInt64.toNat_or, UInt64.toNat_shiftLeft, hshift, Nat.mod_eq_of_lt (by rwa [Nat.shiftLeft_eq]),
    ← Nat.shiftLeft_add_eq_or_of_lt hlow, Nat.shiftLeft_eq]

theorem Phase.code_le (p : Phase) : p.code.toNat ≤ 2 := by
  cases p <;> decide

theorem FaultClass.code_pos (c : FaultClass) : 0 < c.code.toNat := by
  cases c <;> decide

theorem FaultClass.code_le (c : FaultClass) : c.code.toNat ≤ 8 := by
  cases c <;> decide

namespace Fault

def setIndex (f : Fault) : Nat := (f.testSet?.map UInt32.toNat).getD 0

variable (f : Fault)

theorem setIndex_lt : f.setIndex < 2 ^ 32 := by
  rw [setIndex]
  cases f.testSet? with
  | none => decide
  | some set => exact set.toNat_lt

theorem toNat_failureCode :
    f.failureCode.toNat =
      f.setIndex * 2 ^ 8 + (f.phase.code.toNat * 2 ^ 4 + f.faultClass.code.toNat) := by
  have hset := f.setIndex_lt
  have hphase := f.phase.code_le
  have hclass := f.faultClass.code_le
  obtain ⟨set, hindex, hcode⟩ : ∃ set : UInt64, set.toNat = f.setIndex ∧
      f.failureCode = (set <<< 8) ||| (f.phase.code <<< 4) ||| f.faultClass.code := by
    rw [failureCode, setIndex]
    cases f.testSet? with
    | none => exact ⟨0, rfl, rfl⟩
    | some set => exact ⟨set.toUInt64, rfl, rfl⟩
  have hlow : ((f.phase.code <<< 4) ||| f.faultClass.code).toNat =
      f.phase.code.toNat * 2 ^ 4 + f.faultClass.code.toNat :=
    toNat_packed 4 (by decide) (by omega) (by omega)
  rw [hcode, UInt64.or_assoc, ← hlow, ← hindex]
  exact toNat_packed 8 (by decide) (by omega) (by omega)

theorem failureCode_pos : 0 < f.failureCode.toNat := by
  rw [toNat_failureCode]
  exact Nat.add_pos_right _ (Nat.add_pos_right _ f.faultClass.code_pos)

theorem failureCode_lt : f.failureCode.toNat < 2 ^ 40 := by
  have hset := f.setIndex_lt
  have hphase := f.phase.code_le
  have hclass := f.faultClass.code_le
  rw [toNat_failureCode]
  omega

end Fault

namespace StatusWord

def packed (code : UInt64) : UInt64 := if code = 0 then fallbackCode else code

def kept (code : UInt64) : Nat := (packed code).toNat % 2 ^ 63

theorem kept_lt (code : UInt64) : kept code < 2 ^ 63 := Nat.mod_lt _ (by decide)

theorem packed_of_ne {code : UInt64} (h : code ≠ 0) : packed code = code := if_neg h

theorem word_failure (code : UInt64) : (failure code).word.toNat = kept code * 2 + 1 := by
  have hroom : (packed code).toNat <<< 1 % 2 ^ 64 = kept code <<< 1 := by
    rw [Nat.shiftLeft_eq, Nat.shiftLeft_eq, kept]
    omega
  change ((packed code <<< 1) ||| 1).toNat = _
  rw [UInt64.toNat_or, UInt64.toNat_shiftLeft]
  change (packed code).toNat <<< 1 % 2 ^ 64 ||| 1 = _
  rw [hroom, ← Nat.shiftLeft_add_eq_or_of_lt (by decide), Nat.shiftLeft_eq]

theorem failure_eq_success_iff {code : UInt64} : failure code = success ↔ kept code = 0 := by
  have hword := word_failure code
  constructor
  · intro h
    rw [h, show success.word.toNat = 1 from rfl] at hword
    omega
  · intro h
    rw [h] at hword
    exact congrArg StatusWord.mk (UInt64.toNat_inj.1 hword)

theorem isSuccess_eq_true_iff {s : StatusWord} : s.isSuccess = true ↔ s = success := by
  rw [isSuccess, beq_iff_eq, StatusWord.mk.injEq]

theorem failureCode?_failure_eq (code : UInt64) :
    (failure code).failureCode? = if kept code = 0 then none else some (UInt64.ofNat (kept code)) := by
  have hsuccess : (failure code).isSuccess = true ↔ kept code = 0 :=
    isSuccess_eq_true_iff.trans failure_eq_success_iff
  rw [failureCode?]
  split_ifs with hread hnone hnone
  · rfl
  · exact absurd (hsuccess.1 hread) hnone
  · exact absurd (hsuccess.2 hnone) hread
  · congr 1
    apply UInt64.toNat_inj.1
    rw [UInt64.toNat_shiftRight, word_failure, UInt64.toNat_ofNat_of_lt'
      (Nat.lt_trans (kept_lt code) (by decide))]
    change (kept code * 2 + 1) >>> 1 = kept code
    rw [Nat.shiftRight_eq_div_pow]
    omega

section Fits

variable {code : UInt64} (hpos : 0 < code.toNat) (hlt : code.toNat < 2 ^ 63)
include hpos hlt

/-- A code that leaves room for the lowest bit is kept as a whole. -/
theorem kept_of_lt : kept code = code.toNat := by
  have hne : code ≠ 0 := by
    rintro rfl
    exact Nat.lt_irrefl 0 hpos
  rw [kept, packed_of_ne hne, Nat.mod_eq_of_lt hlt]

theorem toNat_failure : (failure code).word.toNat = code.toNat * 2 + 1 := by
  rw [word_failure, kept_of_lt hpos hlt]

theorem failure_ne_success : failure code ≠ success := by
  rw [Ne, failure_eq_success_iff, kept_of_lt hpos hlt]
  exact Nat.ne_of_gt hpos

theorem isSuccess_failure : (failure code).isSuccess = false :=
  Bool.eq_false_iff.2 (mt isSuccess_eq_true_iff.1 (failure_ne_success hpos hlt))

theorem failureCode?_failure : (failure code).failureCode? = some code := by
  rw [failureCode?_failure_eq, kept_of_lt hpos hlt, if_neg (Nat.ne_of_gt hpos), UInt64.ofNat_toNat]

end Fits

theorem fileText_injective : Function.Injective fileText := by
  intro a b h
  have hdigits : Nat.toDigits 10 a.word.toNat = Nat.toDigits 10 b.word.toNat :=
    String.ofList_inj.1 ((String.append_left_inj _).1 h)
  have hword : a.word.toNat = b.word.toNat := by
    rw [← Nat.ofDigitChars_ten_toDigits (n := a.word.toNat), hdigits, Nat.ofDigitChars_ten_toDigits]
  exact congrArg StatusWord.mk (UInt64.toNat_inj.1 hword)

end StatusWord

end OffloadBench
