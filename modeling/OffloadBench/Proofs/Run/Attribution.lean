import OffloadBench.Proofs.Run.Sets
import OffloadBench.Proofs.Round.Collection

/-! # Attribution of faults

A fault that ends a run names the set and the phase it was raised in, whatever the transport did, and
its class is one that the outside can cause: no packet of the run's own is ever malformed. So a fault
tells apart the set that failed from those before it, which passed.
-/
namespace OffloadBench
open Config Device Draw Wire

def FaultClass.isOutside : FaultClass → Bool
  | .transport | .timeout | .length | .duplicate | .unknownLevel | .dataMismatch => true
  | .malformed | .config => false

structure Fault.RaisedIn (fault : Fault) (set : UInt32) (phase : Phase) : Prop where
  testSet : fault.testSet? = some set
  phase : fault.phase = phase
  faultClass : fault.faultClass.isOutside = true

theorem Fault.raisedIn_ofTransport (set : UInt32) (phase : Phase) (e : TransportError) :
    (Fault.ofTransport set phase e).RaisedIn set phase :=
  ⟨rfl, rfl, rfl⟩

end OffloadBench

namespace OffloadBench.Round
open Config Device Draw Wire

variable {σ : Type} {t : Transport σ} {set : TestSet} {s : σ} {offset : UInt8}
variable {timeout : Option UInt64} {r : Reception} {fault : Fault}

theorem raisedIn_of_awaited {outcome : Except TransportError Delivery}
    (h : awaited set r outcome = .error fault) : fault.RaisedIn set.index .receiving := by
  unfold awaited at h
  split at h
  · cases h
    exact ⟨rfl, rfl, rfl⟩
  · cases h
    exact Fault.raisedIn_ofTransport _ _ _
  · split at h
    · cases h
    · cases h
      exact ⟨rfl, rfl, rfl⟩

theorem raisedIn_of_examine {frame : Bytes} (h : examine set offset r frame = .error fault) :
    fault.RaisedIn set.index .receiving := by
  by_cases hnil : frame = []
  · rw [hnil, examine_nil] at h
    cases h
    exact ⟨rfl, rfl, rfl⟩
  by_cases hlength : frame.length = set.frameLength
  · have hpos : 0 < set.frameLength := hlength ▸ List.length_pos_iff.2 hnil
    rw [examine_of_length hpos hlength] at h
    cases hindex : levelIndex? set offset (frame.getD 7 0) with
    | none =>
      rw [hindex] at h
      cases h
      exact ⟨rfl, rfl, rfl⟩
    | some index =>
      rw [hindex] at h
      dsimp only at h
      split at h
      · cases h
        exact ⟨rfl, rfl, rfl⟩
      · rw [compareFrame_eq (levelIndex?_eq_some_iff.1 hindex).2] at h
        split at h
        · cases h
          exact ⟨rfl, rfl, rfl⟩
        · cases h
  · rw [examine_of_length_ne hnil hlength] at h
    cases h
    exact ⟨rfl, rfl, rfl⟩

theorem raisedIn_of_sendLevels {levels : List Nat} (hlt : ∀ l ∈ levels, l < set.levelCount)
    (h : (sendLevels t set levels s).1 = .error fault) : fault.RaisedIn set.index .sending := by
  induction levels generalizing s with
  | nil => cases h
  | cons l rest ih =>
    rw [sendLevels, TestSet.stimulusFrame_eq (hlt l List.mem_cons_self)] at h
    dsimp only at h
    split at h
    · cases h
      exact Fault.raisedIn_ofTransport _ _ _
    · exact ih (fun l hl => hlt l (List.mem_cons_of_mem _ hl)) h

theorem raisedIn_of_collect (h : (collect t set offset timeout r s).1 = .error fault) :
    fault.RaisedIn set.index .receiving := by
  fun_induction collect t set offset timeout r s with
  | case1 => cases h
  | case2 r s _ outcome mid _ fault' hawaited =>
    cases h
    exact raisedIn_of_awaited hawaited
  | case3 r s _ outcome mid _ frame _ fault' r' haccept =>
    cases h
    exact raisedIn_of_examine (accept_eq_error haccept).1
  | case4 _ _ _ _ _ _ _ _ _ _ _ ih => exact ih h

end OffloadBench.Round

namespace OffloadBench
open Config Device Draw Round Wire

variable {σ : Type} {t : Transport σ} {s : Settings} {state : σ} {fault : Fault}

theorem testSet?_of_runSet {set : TestSet} (h : (runSet t s set state).1 = .error fault) :
    fault.testSet? = some set.index := by
  cases hsend : sendStimuli t set state with
  | mk outcome mid =>
    cases outcome with
    | error fault' =>
      rw [runSet, hsend] at h
      cases h
      exact (raisedIn_of_sendLevels (fun _ => TestSet.lt_of_mem_order)
        (congrArg Prod.fst hsend)).testSet
    | ok =>
      rw [runSet_of_sent hsend] at h
      exact (raisedIn_of_collect h).testSet

theorem testSet?_of_runSets {n index : Nat} {g : Generator} {p : Progress}
    (h : (runSets t s n (UInt32.ofNat index) g p state).1 = .error fault) :
    ∃ k < n, fault.testSet? = some (UInt32.ofNat (index + k)) := by
  induction n generalizing index g p state with
  | zero => cases h
  | succ n ih =>
    cases hset : runSet t s (prepared s (UInt32.ofNat index) g) state with
    | mk outcome mid =>
      cases outcome with
      | error fault' =>
        rw [runSets_succ_of_error hset] at h
        cases h
        exact ⟨0, Nat.succ_pos n, testSet?_of_runSet (congrArg Prod.fst hset)⟩
      | ok r =>
        rw [runSets_succ_of_ok hset, ofNat_succ] at h
        obtain ⟨k, hk, htestSet⟩ := ih h
        exact ⟨k + 1, by omega, by rw [htestSet, Nat.add_assoc, Nat.add_comm 1]⟩

/-- A run that passes a number of sets does not fail in any of them. -/
theorem Harness.testSet?_of_run {h : Harness} {d : Identifier} {n : Nat} {p : Progress}
    {first mid : σ} (hdevice : t.device state = (.ok d, first))
    (hn : n ≤ h.settings.run.testSets.toNat) (hfirst : h.firstSets t n first = (.ok p, mid))
    (hrun : (h.run t state).1 = .error fault) :
    ∃ r : UInt32, n ≤ r.toNat ∧ fault.testSet? = some r := by
  obtain ⟨m, hm⟩ := Nat.exists_eq_add_of_le hn
  have hbound := h.settings.run.testSets.toNat_lt
  have hsplit := runSets_add (n := m) hfirst
  rw [← hm, UInt32.zero_add] at hsplit
  cases hsets : runSets t h.settings h.settings.run.testSets.toNat 0 (.ofSeed h.seed) {} first with
  | mk outcome final =>
    cases outcome with
    | ok p' =>
      rw [run_of_ok hdevice hsets] at hrun
      cases hrun
    | error fault' =>
      rw [run_of_error hdevice hsets] at hrun
      cases hrun
      rw [hsplit] at hsets
      obtain ⟨k, hk, htestSet⟩ := testSet?_of_runSets (congrArg Prod.fst hsets)
      refine ⟨_, ?_, htestSet⟩
      rw [UInt32.toNat_ofNat']
      omega

end OffloadBench
