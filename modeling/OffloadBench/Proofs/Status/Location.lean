import OffloadBench.Proofs.CommandLine.StatusFile
import OffloadBench.Proofs.Text.Numerals

/-! # What a word tells of a fault

The word of a fault is taken apart into the test set, the phase and the class of the fault, and tells
nothing else. Which numbers these are is said fault by fault, with the numbers of the phases and of the
classes written out, and what a fault tells of itself agrees with it.

So the word is the same for two faults exactly if the three numbers are, and it is never the word that
stands in for a code of zero, because that word names a class which no fault has. The texts that a
problem shows are numerals for the code of the fault and for its word.
-/
namespace OffloadBench

def Phase.number : Phase → UInt64
  | .setup => 0
  | .sending => 1
  | .receiving => 2

theorem FailureCode.toNat_unpack (code : UInt64) :
    (unpack code).testSet.toNat = code.toNat / 2 ^ 8 ∧
      (unpack code).phase.toNat = code.toNat / 2 ^ 4 % 2 ^ 4 ∧
        (unpack code).faultClass.toNat = code.toNat % 2 ^ 4 := by
  simp only [unpack, UInt64.toNat_and, UInt64.toNat_shiftRight, Nat.shiftRight_eq_div_pow,
    show (0xF : UInt64).toNat = 2 ^ 4 - 1 from rfl, Nat.and_two_pow_sub_one_eq_mod]
  exact ⟨rfl, rfl, trivial⟩

namespace Fault

/-- The test set, the phase and the class of a fault. Without a test set it is that of index zero. -/
def location : Fault → FailureCode
  | .transport testSet phase _ _ => ⟨testSet.toUInt64, phase.number, 1⟩
  | .length testSet _ _ => ⟨testSet.toUInt64, 2, 2⟩
  | .duplicateResponse testSet _ => ⟨testSet.toUInt64, 2, 3⟩
  | .dataMismatch testSet _ _ => ⟨testSet.toUInt64, 2, 4⟩
  | .malformed testSet phase _ => ⟨testSet.toUInt64, phase.number, 5⟩
  | .receiveTimeout testSet _ _ => ⟨testSet.toUInt64, 2, 6⟩
  | .unknownLevel testSet _ _ _ => ⟨testSet.toUInt64, 2, 7⟩
  | .config _ => ⟨0, 0, 8⟩

theorem location_eq (f : Fault) :
    f.location =
      ⟨(f.testSet?.map UInt32.toUInt64).getD 0, f.phase.code, f.faultClass.code⟩ := by
  cases f <;> rfl

variable (f : Fault)

theorem toNat_testSet_location : f.location.testSet.toNat = f.setIndex := by
  rw [location_eq, setIndex]
  cases f.testSet? <;> rfl

theorem unpack_failureCode : FailureCode.unpack f.failureCode = f.location := by
  obtain ⟨htestSet, hphase, hclass⟩ := FailureCode.toNat_unpack f.failureCode
  have hphase_le := f.phase.code_le
  have hclass_le := f.faultClass.code_le
  rw [toNat_failureCode] at htestSet hphase hclass
  have hset : (FailureCode.unpack f.failureCode).testSet.toNat = f.location.testSet.toNat := by
    rw [htestSet, toNat_testSet_location]
    omega
  rw [location_eq] at hset ⊢
  rw [FailureCode.mk.injEq]
  refine ⟨UInt64.toNat_inj.1 hset, UInt64.toNat_inj.1 ?_, UInt64.toNat_inj.1 ?_⟩
  · omega
  · omega

/-- The location is all that a failure code depends on. -/
theorem failureCode_eq_iff {f g : Fault} : f.failureCode = g.failureCode ↔ f.location = g.location := by
  constructor
  · intro h
    rw [← unpack_failureCode, h, unpack_failureCode]
  · intro h
    have hset : f.setIndex = g.setIndex := by
      rw [← toNat_testSet_location, h, toNat_testSet_location]
    rw [location_eq, location_eq, FailureCode.mk.injEq] at h
    obtain ⟨-, hphase, hclass⟩ := h
    apply UInt64.toNat_inj.1
    rw [toNat_failureCode, toNat_failureCode, hset, hphase, hclass]

end Fault

namespace StatusWord

variable (f : Fault)

theorem failureCode?_fault : (failure f.failureCode).failureCode? = some f.failureCode :=
  failureCode?_failure f.failureCode_pos (Nat.lt_trans f.failureCode_lt (by decide))

theorem toNat_fault : (failure f.failureCode).word.toNat = f.failureCode.toNat * 2 + 1 :=
  toNat_failure f.failureCode_pos (Nat.lt_trans f.failureCode_lt (by decide))

theorem failure_fault_inj {f g : Fault} :
    failure f.failureCode = failure g.failureCode ↔ f.location = g.location := by
  rw [← Fault.failureCode_eq_iff]
  constructor
  · intro h
    have hcode := congrArg failureCode? h
    rwa [failureCode?_fault, failureCode?_fault, Option.some.injEq] at hcode
  · intro h
    rw [h]

/-- No class has the code that the fallback code names. -/
theorem failure_fault_ne_fallback : failure f.failureCode ≠ failure fallbackCode := by
  intro h
  have hcode := congrArg failureCode? h
  rw [failureCode?_fault, failureCode?_failure (by decide) (by decide), Option.some.injEq] at hcode
  have hclass := congrArg (fun code => (FailureCode.unpack code).faultClass.toNat) hcode
  have hle := f.faultClass.code_le
  rw [Fault.unpack_failureCode, Fault.location_eq] at hclass
  change f.faultClass.code.toNat = 15 at hclass
  omega

end StatusWord

namespace Fault
open CommandLine

/-- The word of a fault tells where the fault was raised and of which class it is, no less and no more. -/
theorem statusWord_locates (α : Type) (f : Fault) :
    let w := StatusWord.ofResult (.error f : Except Fault α)
    w.word.toNat % 2 = 1 ∧ w ≠ .success ∧ w.isSuccess = false ∧
      w.failureCode? = some f.failureCode ∧
      FailureCode.unpack f.failureCode = f.location ∧
      f.location = ⟨(f.testSet?.map UInt32.toUInt64).getD 0, f.phase.code, f.faultClass.code⟩ ∧
      (∀ g : Fault, StatusWord.ofResult (.error g : Except Fault α) = w ↔ g.location = f.location) ∧
      w ≠ .failure StatusWord.fallbackCode ∧
      (∃ text, (Problem.ofFault f).shown? "failure_code" = some text ∧
        text = Text.hexMarked f.failureCode.toNat ∧
        Text.numeral? text.toList = some f.failureCode) ∧
      ∃ text, (Problem.ofFault f).shown? "status_word" = some text ∧
        text = Text.hexMarked w.word.toNat ∧ Text.numeral? text.toList = some w.word := by
  have hcode := f.failureCode_pos
  have hlt := Nat.lt_trans f.failureCode_lt (by decide : 2 ^ 40 < 2 ^ 63)
  have hodd : (StatusWord.failure f.failureCode).word.toNat % 2 = 1 := by
    rw [StatusWord.toNat_fault]
    omega
  obtain ⟨hshown, hshown'⟩ := Problem.shown?_ofFault f
  exact ⟨hodd, StatusWord.failure_ne_success hcode hlt, StatusWord.isSuccess_failure hcode hlt,
    StatusWord.failureCode?_fault f, f.unpack_failureCode, f.location_eq,
    fun _ => StatusWord.failure_fault_inj, StatusWord.failure_fault_ne_fallback f,
    ⟨_, hshown, rfl, Text.numeral?_hexMarked _⟩, _, hshown', rfl, Text.numeral?_hexMarked _⟩

end Fault

end OffloadBench
