import OffloadBench.Device.Transcript
import OffloadBench.Proofs.Run.Sets

/-! # Recorded runs

A recorded transport takes a run through the same states to the same outcome, and its transcript
tells the waits. Sets that pass wait once for each response they verify, no matter what the transport
is.
-/
namespace OffloadBench.Device
open Wire

namespace Transcript

variable (log : Transcript)

@[simp] theorem waits_push_sent (frame : Bytes) (outcome : Except TransportError Unit) :
    waits (log.push (.sent frame outcome)) = log.waits := by
  simp [waits]

@[simp] theorem waits_push_received (capacity : Nat) (timeout : Option UInt64)
    (outcome : Except TransportError Delivery) :
    waits (log.push (.received capacity timeout outcome)) = log.waits ++ [(capacity, timeout)] := by
  simp [waits]

end Transcript

theorem Transport.recorded_device {σ : Type} (t : Transport σ) (x : σ × Transcript) :
    t.recorded.device x =
      ((t.device x.1).1, (t.device x.1).2, x.2.push (.queried (t.device x.1).1)) := rfl

theorem Transport.recorded_send {σ : Type} (t : Transport σ) (frame : Bytes) (x : σ × Transcript) :
    t.recorded.send frame x =
      ((t.send frame x.1).1, (t.send frame x.1).2, x.2.push (.sent frame (t.send frame x.1).1)) := rfl

theorem Transport.recorded_receive {σ : Type} (t : Transport σ) (capacity : Nat)
    (timeout : Option UInt64) (x : σ × Transcript) :
    t.recorded.receive capacity timeout x =
      ((t.receive capacity timeout x.1).1, (t.receive capacity timeout x.1).2,
        x.2.push (.received capacity timeout (t.receive capacity timeout x.1).1)) := rfl

theorem Transport.receive_recorded {σ : Type} {t : Transport σ} {capacity : Nat}
    {timeout : Option UInt64} {s s' : σ} {outcome : Except TransportError Delivery}
    (h : t.receive capacity timeout s = (outcome, s')) (log : Transcript) :
    t.recorded.receive capacity timeout (s, log) =
      (outcome, s', log.push (.received capacity timeout outcome)) := by
  rw [recorded_receive, h]

end OffloadBench.Device

namespace OffloadBench.Round
open Config Device Draw Wire

variable {σ : Type}

theorem sendLevels_recorded (t : Transport σ) (set : TestSet) (levels : List Nat) (s : σ)
    (log : Transcript) :
    ∃ log' : Transcript, sendLevels t.recorded set levels (s, log) =
        ((sendLevels t set levels s).1, (sendLevels t set levels s).2, log') ∧
      log'.waits = log.waits := by
  induction levels generalizing s log with
  | nil => exact ⟨log, rfl, rfl⟩
  | cons l rest ih =>
    rw [sendLevels, sendLevels]
    cases hframe : set.stimulusFrame l with
    | error e => exact ⟨log, rfl, rfl⟩
    | ok frame =>
      dsimp only
      cases hsend : t.send frame s with
      | mk outcome mid =>
        have hsent : t.recorded.send frame (s, log) =
            (outcome, mid, log.push (.sent frame outcome)) := by
          rw [Transport.recorded_send, hsend]
        rw [hsent]
        cases outcome with
        | error e => exact ⟨_, rfl, Transcript.waits_push_sent _ _ _⟩
        | ok =>
          obtain ⟨log', hrest, hwaits⟩ := ih mid (log.push (.sent frame (.ok ())))
          exact ⟨log', hrest, by rw [hwaits, Transcript.waits_push_sent]⟩

theorem Delivers.recorded {t : Transport σ} {capacity : Nat} {timeout : Option UInt64} {s s' : σ}
    {frames : List Bytes} (h : Delivers t capacity timeout s frames s') (log : Transcript) :
    ∃ log' : Transcript, Delivers t.recorded capacity timeout (s, log) frames (s', log') ∧
      log'.waits.length = log.waits.length + frames.length := by
  induction h generalizing log with
  | nil s => exact ⟨log, .nil _, rfl⟩
  | cons hreceive _ ih =>
    obtain ⟨log', hrest, hwaits⟩ := ih (log.push (.received capacity timeout (.ok (.copy _ _))))
    refine ⟨log', .cons (Transport.receive_recorded hreceive log) hrest, ?_⟩
    rw [hwaits, Transcript.waits_push_received, List.length_append, List.length_singleton,
      List.length_cons, Nat.add_assoc, Nat.add_comm 1]

/-- A collection that succeeds waits once for each response that it verifies. -/
theorem collect_recorded (t : Transport σ) (set : TestSet) (offset : UInt8)
    (timeout : Option UInt64) (r : Reception) (s : σ) (log : Transcript) :
    ∃ log' : Transcript, collect t.recorded set offset timeout r (s, log) =
        ((collect t set offset timeout r s).1, (collect t set offset timeout r s).2, log') ∧
      ∀ r', (collect t set offset timeout r s).1 = .ok r' →
        log'.waits.length + r.received = log.waits.length + r'.received := by
  fun_induction collect t set offset timeout r s generalizing log with
  | case1 r s hcomplete =>
    refine ⟨log, collect_of_complete hcomplete, ?_⟩
    intro r' h
    cases h
    rfl
  | case2 r s hopen outcome mid hreceive fault hawaited =>
    have hrecorded := Transport.receive_recorded hreceive log
    refine ⟨_, collect_of_fault (Bool.eq_false_iff.2 hopen) hrecorded hawaited, ?_⟩
    intro r' h
    cases h
  | case3 r s hopen outcome mid hreceive frame hawaited fault r₁ haccept =>
    have hrecorded := Transport.receive_recorded hreceive log
    obtain ⟨hexamine, -⟩ := accept_eq_error haccept
    refine ⟨_, collect_of_refused (Bool.eq_false_iff.2 hopen) hrecorded hawaited hexamine, ?_⟩
    intro r' h
    cases h
  | case4 r s hopen outcome mid hreceive frame hawaited v r₁ haccept ih =>
    have hrecorded := Transport.receive_recorded hreceive log
    obtain ⟨hexamine, rfl⟩ := accept_eq_ok haccept
    obtain ⟨log', hcollect, hwaits⟩ := ih (log.push (.received (bufferCapacity set) timeout outcome))
    refine ⟨log', ?_, ?_⟩
    · rw [collect_of_verified (Bool.eq_false_iff.2 hopen) hrecorded hawaited hexamine]
      exact hcollect
    · intro r' h
      have hcount := hwaits r' h
      rw [Transcript.waits_push_received, List.length_append, List.length_singleton] at hcount
      have hreceived := (record_of_examine_ok hexamine).1
      omega

end OffloadBench.Round

namespace OffloadBench
open Config Device Draw Round Wire

variable {σ : Type}

theorem runSet_recorded (t : Transport σ) (s : Settings) (set : TestSet) (state : σ)
    (log : Transcript) :
    ∃ log' : Transcript, runSet t.recorded s set (state, log) =
        ((runSet t s set state).1, (runSet t s set state).2, log') ∧
      ∀ r, (runSet t s set state).1 = .ok r →
        log'.waits.length = log.waits.length + r.received := by
  obtain ⟨log₁, hsent, hwaits₁⟩ := sendLevels_recorded t set set.order state log
  rw [runSet, runSet, sendStimuli, sendStimuli, hsent]
  cases hsend : sendLevels t set set.order state with
  | mk outcome mid =>
    cases outcome with
    | error fault => exact ⟨log₁, rfl, fun _ h => by cases h⟩
    | ok =>
      obtain ⟨log₂, hcollect, hwaits₂⟩ := collect_recorded t set s.run.responseLevelOffset
        s.run.receiveTimeout {} mid log₁
      refine ⟨log₂, hcollect, ?_⟩
      intro r h
      rw [← hwaits₁]
      exact hwaits₂ r h

theorem runSets_recorded (t : Transport σ) (s : Settings) (n : Nat) (index : UInt32) (g : Generator)
    (p : Progress) (state : σ) (log : Transcript) :
    ∃ log' : Transcript, runSets t.recorded s n index g p (state, log) =
        ((runSets t s n index g p state).1, (runSets t s n index g p state).2, log') ∧
      ∀ p', (runSets t s n index g p state).1 = .ok p' →
        log'.waits.length + p.verified = log.waits.length + p'.verified := by
  induction n generalizing index g p state log with
  | zero =>
    refine ⟨log, rfl, ?_⟩
    intro p' h
    cases h
    rfl
  | succ n ih =>
    obtain ⟨log₁, hset', hwaits₁⟩ := runSet_recorded t s (prepared s index g) state log
    cases hset : runSet t s (prepared s index g) state with
    | mk outcome mid =>
      rw [hset] at hset' hwaits₁
      cases outcome with
      | error fault =>
        rw [runSets_succ_of_error hset, runSets_succ_of_error hset']
        exact ⟨log₁, rfl, fun _ h => by cases h⟩
      | ok r =>
        obtain ⟨log₂, hrest, hwaits₂⟩ := ih (index + 1) (g.order s.packet.levelCount).2
          (p.add (prepared s index g) r) mid log₁
        rw [runSets_succ_of_ok hset, runSets_succ_of_ok hset']
        refine ⟨log₂, hrest, ?_⟩
        intro p' h
        have hset₁ := hwaits₁ r rfl
        have hrest₂ : log₂.waits.length + (p.verified + r.received) = _ := hwaits₂ p' h
        omega

theorem Harness.run_recorded (h : Harness) (t : Transport σ) (state : σ) (log : Transcript) :
    ∃ log' : Transcript, h.run t.recorded (state, log) =
      ((h.run t state).1, (h.run t state).2, log') := by
  cases hdevice : t.device state with
  | mk outcome first =>
    have hqueried : t.recorded.device (state, log) =
        (outcome, first, log.push (.queried outcome)) := by
      rw [Transport.recorded_device, hdevice]
    cases outcome with
    | error e =>
      rw [run, run, hdevice, hqueried]
      exact ⟨_, rfl⟩
    | ok d =>
      obtain ⟨log', hsets', -⟩ := runSets_recorded t h.settings h.settings.run.testSets.toNat 0
        (.ofSeed h.seed) {} first (log.push (.queried (.ok d)))
      cases hsets : runSets t h.settings h.settings.run.testSets.toNat 0 (.ofSeed h.seed) {}
          first with
      | mk outcome final =>
        rw [hsets] at hsets'
        cases outcome with
        | error fault =>
          rw [run_of_error hdevice hsets, run_of_error hqueried hsets']
          exact ⟨log', rfl⟩
        | ok p =>
          rw [run_of_ok hdevice hsets, run_of_ok hqueried hsets']
          exact ⟨log', rfl⟩

end OffloadBench
