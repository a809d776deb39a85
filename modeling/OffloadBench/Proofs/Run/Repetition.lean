import OffloadBench.Proofs.Engine.Rounds

/-! # Repeated runs over a correct engine

A run over an engine without faults passes and leaves the engine as idle as it found it. What carries
over from one run to the next is the generator and the counters alone, so every further run of the
same harness passes too.
-/
namespace OffloadBench
open Config Device Draw Engine Round

def Harness.runs {σ : Type} (h : Harness) (t : Transport σ) :
    Nat → σ → List (Except Fault Report) × σ
  | 0, state => ([], state)
  | n + 1, state =>
    let (outcome, state) := h.run t state
    let (outcomes, state) := h.runs t n state
    (outcome :: outcomes, state)

structure Report.Passed (r : Report) (s : Settings) : Prop where
  setsCompleted : r.setsCompleted = s.run.testSets
  responsesVerified : r.responsesVerified = s.run.testSets.toNat * s.packet.levelCount
  length_sets : r.sets.length = s.run.testSets.toNat
  sendOrder : ∀ set ∈ r.sets, set.sendOrder.Perm (List.range s.packet.levelCount)
  arrivalOrder : ∀ set ∈ r.sets,
    (set.arrivalOrder.map UInt8.toNat).Perm (List.range s.packet.levelCount)

theorem Config.Settings.map_toNat_levels (s : Settings) :
    s.levels.map UInt8.toNat = List.range s.packet.levelCount :=
  Stimulus.map_toNat_levelByte s.packet.levelCount_le

theorem exists_of_mem_reports {levels index : Nat} {g : Generator} {arrivals : List (List UInt8)}
    {set : SetReport} (h : set ∈ reports levels index g arrivals) :
    set.sendOrder.Perm (List.range levels) ∧ set.arrivalOrder ∈ arrivals := by
  obtain ⟨k, hk⟩ := List.mem_iff_getElem?.1 h
  rw [getElem?_reports, Option.map_eq_some_iff] at hk
  obtain ⟨arrival, harrival, rfl⟩ := hk
  exact ⟨g.orderAt_perm levels k, List.mem_of_getElem? harrival⟩

namespace Harness
open Simulator

variable {h : Harness} {e : Simulator}

/-- A run over an idle engine without faults passes, and leaves the engine idle. -/
theorem run_sound (hidle : e.Idle)
    (hoffset : e.settings.levelOffset = h.settings.run.responseLevelOffset)
    (hfaults : e.settings.faults.isEnabled = false) :
    ∃ (report : Report) (g : Generator), report.Passed h.settings ∧
      h.run Simulator.transport e = (.ok report,
        e.afterRounds g h.settings.run.testSets.toNat h.settings.packet.levelCount) := by
  have hquiet : ∀ k < h.settings.run.testSets.toNat,
      e.settings.faults.isActive (e.stats.roundsCompleted + k) = false :=
    fun _ _ => Faults.isActive_eq_false hfaults _
  obtain ⟨arrivals, g, hcount, hperms, hsets⟩ := runSets_sound
    (Settings.bounded_of_valid h.valid) 0 (.ofSeed h.seed) {} hidle hoffset hquiet
  have hdevice : Simulator.transport.device e = (.ok e.settings.device, e) := rfl
  refine ⟨_, g, ?_, run_of_ok hdevice hsets⟩
  have hmem : ∀ set ∈ (Progress.extend {} h.settings.packet.levelCount 0 (.ofSeed h.seed)
      arrivals).sets.reverse, set ∈ reports h.settings.packet.levelCount 0 (.ofSeed h.seed)
        arrivals := by
    simp [Progress.extend]
  refine ⟨rfl, ?_, ?_, ?_, ?_⟩
  · rw [Progress.extend, hcount, Nat.zero_add]
  · simp only [Progress.extend, List.append_nil, List.reverse_reverse, length_reports, hcount]
  · intro set hset
    exact (exists_of_mem_reports (hmem set hset)).1
  · intro set hset
    rw [← h.settings.map_toNat_levels]
    exact (hperms _ (exists_of_mem_reports (hmem set hset)).2).map _

theorem runs_sound (hidle : e.Idle)
    (hoffset : e.settings.levelOffset = h.settings.run.responseLevelOffset)
    (hfaults : e.settings.faults.isEnabled = false) (n : Nat) :
    ∃ (reports : List Report) (g : Generator), reports.length = n ∧
      (∀ report ∈ reports, report.Passed h.settings) ∧
      h.runs Simulator.transport n e = (reports.map .ok,
        e.afterRounds g (n * h.settings.run.testSets.toNat) h.settings.packet.levelCount) := by
  induction n generalizing e with
  | zero =>
    refine ⟨[], e.generator, rfl, by simp, ?_⟩
    rw [runs, Nat.zero_mul, afterRounds, Stats.afterRounds_zero]
    rfl
  | succ n ih =>
    obtain ⟨report, g, hpassed, hrun⟩ := run_sound hidle hoffset hfaults
    obtain ⟨reports, g', hcount, hall, hruns⟩ := ih (e := e.afterRounds g _ _)
      (hidle.afterRounds g h.settings.run.testSets.toNat h.settings.packet.levelCount) hoffset
      hfaults
    refine ⟨report :: reports, g', congrArg Nat.succ hcount, ?_, ?_⟩
    · intro report' hmem
      rcases List.mem_cons.1 hmem with rfl | hmem
      · exact hpassed
      · exact hall report' hmem
    · rw [runs, hrun]
      dsimp only
      rw [hruns, afterRounds_add, Nat.succ_mul, Nat.add_comm (n * _)]
      rfl

/-- A correct device always passes. Over a fresh engine without faults, whatever its seed, the
harness's seed and the order its responses leave in, every one of any number of runs passes, and in
the end nothing is staged or pending and every frame is accounted for. -/
theorem runs_correct_engine (h : Harness) (settings : EngineSettings)
    (hoffset : settings.levelOffset = h.settings.run.responseLevelOffset)
    (hfaults : settings.faults.isEnabled = false) (n : Nat) :
    let frames := n * h.settings.run.testSets.toNat * h.settings.packet.levelCount
    let (outcomes, final) := h.runs Simulator.transport n (.ofSettings settings)
    outcomes.length = n ∧
      (∀ outcome ∈ outcomes, ∃ report, outcome = .ok report ∧ report.Passed h.settings) ∧
      final.staged = [] ∧ final.pending = 0 ∧ final.stats.framesReceived = frames ∧
      final.stats.framesEmitted = frames ∧
      final.stats.roundsCompleted = n * h.settings.run.testSets.toNat ∧
      final.stats.faultsInjected = 0 := by
  obtain ⟨reports, g, hcount, hall, hruns⟩ := runs_sound (idle_ofSettings settings) hoffset
    hfaults n
  rw [hruns]
  refine ⟨by rw [List.length_map, hcount], ?_, rfl, rfl, Nat.zero_add _, Nat.zero_add _,
    Nat.zero_add _, rfl⟩
  intro outcome houtcome
  obtain ⟨report, hreport, rfl⟩ := List.mem_map.1 houtcome
  exact ⟨report, rfl, hall report hreport⟩

theorem runs_correct_engine_thrice :
    let (outcomes, final) := twoByTwo.runs Simulator.transport 3 (.ofSettings { levelOffset := 3 })
    (∀ outcome ∈ outcomes, ∃ report, outcome = .ok report ∧ report.Passed twoByTwo.settings) ∧
      final.stats.framesReceived = 12 :=
  have h := twoByTwo.runs_correct_engine { levelOffset := 3 } rfl rfl 3
  ⟨h.2.1, h.2.2.2.2.1⟩

end Harness

end OffloadBench
