import OffloadBench.CommandLine.Session
import OffloadBench.Proofs.Json.Members
import OffloadBench.Proofs.Status.Words

/-! # The status file

A session leaves the word of success exactly when it prints a report. A problem that comes from a
fault shows the word of that fault in its context. The status file holds the same word if the
settings loaded; a fault in the settings themselves is printed with its word, but the file holds the
word that stands in for a code of zero.
-/
namespace OffloadBench.CommandLine
open Config Device Json

namespace Problem

def shown? (p : Problem) (name : String) : Option String :=
  ((Value.object p.context).member? name).bind text?

theorem shown?_eq (p : Problem) (name : String) :
    p.shown? name = (p.context.lookup name).bind text? := rfl

theorem lookup_withContext (p : Problem) (name key : String) (value : Value) :
    (p.withContext name value).context.lookup key =
      if key = name then some value.normalize else p.context.lookup key :=
  lookup_insertMember _ _ _ _

theorem shown?_withContext_of_ne {p : Problem} {name key : String} {value : Value}
    (hne : key ≠ name) : (p.withContext name value).shown? key = p.shown? key := by
  rw [shown?_eq, lookup_withContext, if_neg hne, shown?_eq]

theorem shown?_ofFault (fault : Fault) :
    (ofFault fault).shown? "failure_code" = some (Text.hexMarked fault.failureCode.toNat) ∧
      (ofFault fault).shown? "status_word" =
        some (StatusWord.failure fault.failureCode).toText := by
  rw [ofFault, shown?_eq, shown?_eq]
  cases fault.testSet? <;> simp [lookup_withContext, Value.normalize, text?]

end Problem

namespace Failure

theorem shown?_aborted (fault : Fault) (seed : Option UInt64) :
    (aborted fault seed).problem.shown? "failure_code" =
        some (Text.hexMarked fault.failureCode.toNat) ∧
      (aborted fault seed).problem.shown? "status_word" =
        some (aborted fault seed).status.toText := by
  cases seed with
  | none => exact Problem.shown?_ofFault fault
  | some seed =>
    rw [problem, Problem.shown?_withContext_of_ne (by decide),
      Problem.shown?_withContext_of_ne (by decide)]
    exact Problem.shown?_ofFault fault

theorem status_ne_success (failure : Failure) : failure.status ≠ .success := by
  cases failure with
  | rejected => exact of_decide_eq_false rfl
  | aborted fault seed =>
    exact StatusWord.failure_ne_success fault.failureCode_pos
      (Nat.lt_trans fault.failureCode_lt (by decide))

end Failure

namespace Ending

def shown? (e : Ending) (name : String) : Option String :=
  match e.printed with
  | .ok _ => none
  | .error problem => problem.shown? name

/-- A status word that is printed is the one in the status file. -/
def ShowsItsStatus (e : Ending) : Prop :=
  ∀ text, e.shown? "status_word" = some text →
    ∃ w : StatusWord, text = w.toText ∧ e.status.fileText = w.fileText

theorem fileText_ofResult_eq_iff (result : Except Failure Report) :
    (ofResult result).status.fileText = StatusWord.success.fileText ↔
      ∃ report, (ofResult result).printed = .ok report := by
  rw [StatusWord.fileText_injective.eq_iff]
  cases result with
  | ok report => exact ⟨fun _ => ⟨report, rfl⟩, fun _ => rfl⟩
  | error failure =>
    constructor
    · intro h
      exact absurd h failure.status_ne_success
    · rintro ⟨report, h⟩
      cases h

theorem showsItsStatus_of_report (report : Report) : (ofResult (.ok report)).ShowsItsStatus := by
  intro text hshown
  cases hshown

theorem showsItsStatus_of_aborted (fault : Fault) (seed : Option UInt64) :
    (ofResult (.error (.aborted fault seed))).ShowsItsStatus := by
  intro text hshown
  have hword := (Failure.shown?_aborted fault seed).2
  exact ⟨_, Option.some.inj (hshown.symm.trans hword), rfl⟩

theorem showsItsStatus_of_invalidArgument (argument reason : String) :
    (ofResult (.error (.rejected (.invalidArgument argument reason)))).ShowsItsStatus := by
  intro text hshown
  cases hshown

/-- Whatever the transport does, a run within valid settings leaves the word that it shows. -/
theorem showsItsStatus_of_execute {σ : Type} (t : Transport σ) (state : σ) (settings : Settings)
    (clock : UInt64) : (ofResult (execute t state settings clock)).ShowsItsStatus := by
  rw [execute]
  split
  · exact showsItsStatus_of_aborted _ _
  · split
    · exact showsItsStatus_of_aborted _ _
    · exact showsItsStatus_of_report _

theorem fileText_failure_zero : (StatusWord.failure 0).fileText = "511\n" := by
  decide

/-- Of bad settings one word is printed, and the file holds another. -/
theorem words_of_badSettings (e : ConfigError) :
    let ending := ofResult (.error (.rejected (.ofFault (.config e))))
    ending.shown? "failure_code" = some "0x8" ∧ ending.shown? "status_word" = some "0x11" ∧
      ending.status.fileText = "511\n" ∧ ¬ ending.ShowsItsStatus := by
  have hcode : (Fault.config e).failureCode = 8 := by
    change ((0 : UInt64) <<< (8 : UInt64)) ||| ((0 : UInt64) <<< (4 : UInt64)) ||| 8 = 8
    decide
  obtain ⟨hfailure, hword⟩ := Problem.shown?_ofFault (.config e)
  rw [hcode, show Text.hexMarked (8 : UInt64).toNat = "0x8" by decide] at hfailure
  rw [hcode, show (StatusWord.failure 8).toText = "0x11" by decide] at hword
  refine ⟨hfailure, hword, fileText_failure_zero, ?_⟩
  intro hshows
  obtain ⟨w, htext, hfile⟩ := hshows _ hword
  obtain rfl := StatusWord.fileText_injective hfile
  change "0x11" = (StatusWord.failure 0).toText at htext
  exact absurd htext (by decide)

end Ending

variable {s : Surroundings}

theorem loadSettings_eq_error {o : OverrideArguments} {failure : Failure}
    (h : loadSettings s o = .error failure) : ∃ e, failure = .rejected (.ofFault (.config e)) := by
  rw [loadSettings] at h
  split at h
  · cases h
  · cases h
    exact ⟨_, rfl⟩

namespace SimulateArguments

variable {a : SimulateArguments}

theorem showsItsStatus_of_loaded {settings : Settings}
    (h : loadSettings s a.overrides = .ok settings) :
    (Ending.ofResult (a.conduct s)).ShowsItsStatus := by
  rw [conduct, h]
  change (Ending.ofResult (if _ then _ else _)).ShowsItsStatus
  split
  · exact Ending.showsItsStatus_of_invalidArgument _ _
  · exact Ending.showsItsStatus_of_execute _ _ _ _

theorem conduct_of_unloaded {failure : Failure} (h : loadSettings s a.overrides = .error failure) :
    ∃ e, a.conduct s = .error (.rejected (.ofFault (.config e))) := by
  obtain ⟨e, rfl⟩ := loadSettings_eq_error h
  refine ⟨e, ?_⟩
  rw [conduct, h]
  rfl

/-- The status file tells of success exactly when a report is printed, and of a run that ends with a
fault it holds the word that is printed. It can hold another word only if the settings did not load,
and then it always does. -/
theorem statusFile_agrees_iff (a : SimulateArguments) (s : Surroundings) :
    let ending := Ending.ofResult (a.conduct s)
    (ending.status.fileText = "1\n" ↔ ∃ report, ending.printed = .ok report) ∧
      (∀ fault seed, a.conduct s = .error (.aborted fault seed) →
        ending.shown? "failure_code" = some (Text.hexMarked fault.failureCode.toNat) ∧
          ending.shown? "status_word" = some ending.status.toText) ∧
      (∀ failure, loadSettings s a.overrides = .error failure →
        ending.shown? "failure_code" = some "0x8" ∧ ending.shown? "status_word" = some "0x11" ∧
          ending.status.fileText = "511\n") ∧
      (ending.ShowsItsStatus ↔ ∃ settings, loadSettings s a.overrides = .ok settings) := by
  refine ⟨Ending.fileText_ofResult_eq_iff _, ?_, ?_, ?_, ?_⟩
  · intro fault seed haborted
    rw [haborted]
    exact Failure.shown?_aborted fault seed
  · intro failure hload
    obtain ⟨e, hconduct⟩ := conduct_of_unloaded hload
    rw [hconduct]
    obtain ⟨hfailure, hword, hfile, -⟩ := Ending.words_of_badSettings e
    exact ⟨hfailure, hword, hfile⟩
  · intro hshows
    cases hload : loadSettings s a.overrides with
    | ok settings => exact ⟨settings, rfl⟩
    | error failure =>
      obtain ⟨e, hconduct⟩ := conduct_of_unloaded hload
      rw [hconduct] at hshows
      exact absurd hshows (Ending.words_of_badSettings e).2.2.2
  · rintro ⟨settings, hload⟩
    exact showsItsStatus_of_loaded hload

def withheld : SimulateArguments where
  fault := some .drop
  faultLevel := 0
  overrides := { sets := some 1, seed := some 3 }

def smallest : Surroundings where
  environment := [("RDHARNESS_PACKET_ELEMENT_COUNT", "1"), ("RDHARNESS_PACKET_MAX_LEVEL", "0")]

theorem statusFile_agrees_withheld :
    let ending := Ending.ofResult (withheld.conduct smallest)
    ending.shown? "status_word" = some "0x4d" ∧ ending.status.fileText = "77\n" ∧
      ending.ShowsItsStatus :=
  ⟨by decide +kernel, by decide +kernel,
    (statusFile_agrees_iff withheld smallest).2.2.2.2 ⟨_, rfl⟩⟩

/-- No sets at all are refused under one word and leave another. -/
theorem statusFile_disagrees_noSets :
    ∃ common a, Invocation.ofArguments ["simulate", "--sets", "0", "--status-file", "status"] =
        .ok ⟨common, .simulate a⟩ ∧ common.statusFile = some "status" ∧
      let ending := Ending.ofResult (a.conduct {})
      ending.shown? "status_word" = some "0x11" ∧ ending.status.fileText = "511\n" ∧
        ¬ ending.ShowsItsStatus := by
  refine ⟨_, { overrides := { sets := some 0 } }, rfl, rfl, ?_⟩
  obtain ⟨e, hconduct⟩ := conduct_of_unloaded (s := {}) (a := { overrides := { sets := some 0 } }) rfl
  rw [hconduct]
  exact (Ending.words_of_badSettings e).2

end SimulateArguments

end OffloadBench.CommandLine
