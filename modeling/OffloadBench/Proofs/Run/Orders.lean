import OffloadBench.Proofs.Run.Account
import OffloadBench.Proofs.Run.Repetition

/-! # Orders of a run

The orders that a run sends in come from the settings and the seed of its harness, whatever the
transport does and however earlier runs ended. So all passing runs of one harness report the same send
orders, and all its runs, one after the other, offer the same frames in the same order, each as far as it
gets. The orders that the responses of a fault-free engine arrive in come from the engine's own settings
and from the numbers of levels and of sets.

Neither kind depends on the other: the arrival orders are the same for harnesses that differ in their
seeds alone, and the send orders are the same for all fault-free engines with a matching level offset.
-/
namespace OffloadBench
open Config Device Draw Engine Round Wire

theorem map_arrivalOrder_reports (levels index : Nat) (g : Generator)
    (arrivals : List (List UInt8)) :
    (reports levels index g arrivals).map (·.arrivalOrder) = arrivals := by
  induction arrivals generalizing index g with
  | nil => rfl
  | cons arrival rest ih => rw [reports, List.map_cons, ih]

variable {σ : Type} {t : Transport σ} {s : Settings}

theorem runSets_sendOrders {n : Nat} {index : UInt32} {g : Generator} {p p' : Progress}
    {state final : σ} (h : runSets t s n index g p state = (.ok p', final)) :
    p'.sets.map (·.sendOrder) =
      ((List.range n).map (g.orderAt s.packet.levelCount)).reverse ++
        p.sets.map (·.sendOrder) := by
  induction n generalizing index g p state with
  | zero =>
    cases h
    rfl
  | succ n ih =>
    cases hset : runSet t s (prepared s index g) state with
    | mk outcome mid =>
      cases outcome with
      | error fault =>
        rw [runSets_succ_of_error hset] at h
        cases h
      | ok r =>
        rw [runSets_succ_of_ok hset] at h
        rw [ih h, List.range_succ_eq_map, List.map_cons, List.map_map, List.reverse_cons,
          List.append_assoc]
        rfl

namespace Harness

variable {h : Harness}

def sendOrders (h : Harness) : List (List Nat) :=
  (List.range h.settings.run.testSets.toNat).map
    ((Generator.ofSeed h.seed).orderAt h.settings.packet.levelCount)

theorem sendOrders_of_ok {state : σ} {report : Report} (hrun : (h.run t state).1 = .ok report) :
    report.sets.map (·.sendOrder) = h.sendOrders := by
  unfold run at hrun
  split at hrun
  · cases hrun
  · rename_i d mid hdevice
    split at hrun
    · cases hrun
    · rename_i p final hsets
      cases hrun
      rw [List.map_reverse, runSets_sendOrders hsets, List.map_nil, List.append_nil,
        List.reverse_reverse]
      rfl

structure Matches (h : Harness) (settings : EngineSettings) : Prop where
  levelOffset : settings.levelOffset = h.settings.run.responseLevelOffset
  faults : settings.faults.isEnabled = false

/-- The orders that a fresh engine answers in are its own. -/
theorem run_arrivalOrders {settings : EngineSettings} (hengine : h.Matches settings) :
    ∃ report, (h.run Simulator.transport (.ofSettings settings)).1 = .ok report ∧
      report.sets.map (·.arrivalOrder) = settings.departures h.settings.levels
        h.settings.run.testSets.toNat (.ofSeed settings.seed) := by
  have hquiet : ∀ k < h.settings.run.testSets.toNat, settings.faults.isActive (0 + k) = false :=
    fun _ _ => Faults.isActive_eq_false hengine.faults _
  have hsets := Simulator.runSets_departures (Settings.bounded_of_valid h.valid) 0
    (.ofSeed h.seed) {} (Simulator.idle_ofSettings settings) hengine.levelOffset hquiet
  refine ⟨_, congrArg Prod.fst (run_of_ok rfl hsets), ?_⟩
  rw [Progress.extend, List.append_nil, List.reverse_reverse, map_arrivalOrder_reports]
  rfl

def offeredAfter (h : Harness) (t : Transport σ) (state : σ) (runs : Nat) : List Bytes :=
  (h.run t.recorded ((h.runs t runs state).2, #[])).2.2.offered

/-- A run offers the stimuli that are laid down beforehand, as far as it gets. -/
theorem offeredAfter_follows (h : Harness) (t : Transport σ) (state : σ) (runs : Nat) :
    h.offeredAfter t state runs <+: h.stimulusFrames ∧
      ∀ report, (h.run t (h.runs t runs state).2).1 = .ok report →
        h.offeredAfter t state runs = h.stimulusFrames := by
  obtain ⟨log', hrecorded⟩ := h.run_recorded t (h.runs t runs state).2 #[]
  obtain ⟨es, hlog, hcourse⟩ := h.run_follows t ((h.runs t runs state).2, #[])
  rw [Array.toList_empty, List.nil_append] at hlog
  rw [offeredAfter, Transcript.offered, Transcript.requests, hlog, ← h.framesOf_plan]
  constructor
  · exact hcourse.requests_prefix.filterMap _
  · intro report hpassed
    rw [hrecorded, hpassed] at hcourse
    rw [hcourse.requests_of_done]
    rfl

/-- Send orders and arrival orders do not influence each other. -/
theorem orders_independent (h : Harness) :
    (∀ (h' : Harness) (settings : EngineSettings),
      h'.settings.withSeed 0 = h.settings.withSeed 0 → h.Matches settings →
      ∃ report report',
        (h.run Simulator.transport (.ofSettings settings)).1 = .ok report ∧
        (h'.run Simulator.transport (.ofSettings settings)).1 = .ok report' ∧
        report.sets.map (·.arrivalOrder) = report'.sets.map (·.arrivalOrder)) ∧
    (∀ settings settings' : EngineSettings, h.Matches settings → h.Matches settings' →
      ∃ report report',
        (h.run Simulator.transport (.ofSettings settings)).1 = .ok report ∧
        (h.run Simulator.transport (.ofSettings settings')).1 = .ok report' ∧
        report.sets.map (·.sendOrder) = report'.sets.map (·.sendOrder)) ∧
    (∀ {σ τ : Type} (t : Transport σ) (u : Transport τ) (state : σ) (state' : τ)
      (report report' : Report),
      (h.run t state).1 = .ok report → (h.run u state').1 = .ok report' →
      report.sets.map (·.sendOrder) = h.sendOrders ∧
      report.sets.map (·.sendOrder) = report'.sets.map (·.sendOrder)) ∧
    (∀ {σ : Type} (t : Transport σ) (state : σ) (i j : Nat),
      h.offeredAfter t state i <+: h.stimulusFrames ∧
      (∀ report, (h.run t (h.runs t i state).2).1 = .ok report →
        h.offeredAfter t state i = h.stimulusFrames) ∧
      (h.offeredAfter t state i <+: h.offeredAfter t state j ∨
        h.offeredAfter t state j <+: h.offeredAfter t state i)) := by
  refine ⟨?_, ?_, ?_, ?_⟩
  · intro h' settings hsame hengine
    have hpacket : h'.settings.packet = h.settings.packet := congrArg (·.packet) hsame
    have hsets : h'.settings.run.testSets = h.settings.run.testSets :=
      congrArg (·.run.testSets) hsame
    have hoffset : h'.settings.run.responseLevelOffset = h.settings.run.responseLevelOffset :=
      congrArg (·.run.responseLevelOffset) hsame
    have hlevels : h'.settings.levels = h.settings.levels := by
      rw [Settings.levels, hpacket]
      rfl
    obtain ⟨report, hrun, harrival⟩ := run_arrivalOrders hengine
    obtain ⟨report', hrun', harrival'⟩ := run_arrivalOrders (h := h')
      ⟨hengine.levelOffset.trans hoffset.symm, hengine.faults⟩
    refine ⟨report, report', hrun, hrun', ?_⟩
    rw [harrival, harrival', hlevels, hsets]
  · intro settings settings' hengine hengine'
    obtain ⟨report, hrun, -⟩ := run_arrivalOrders hengine
    obtain ⟨report', hrun', -⟩ := run_arrivalOrders hengine'
    refine ⟨report, report', hrun, hrun', ?_⟩
    rw [sendOrders_of_ok hrun, sendOrders_of_ok hrun']
  · intro σ τ t u state state' report report' hrun hrun'
    rw [sendOrders_of_ok hrun, sendOrders_of_ok hrun']
    exact ⟨rfl, rfl⟩
  · intro σ t state i j
    obtain ⟨hi, hpassed⟩ := h.offeredAfter_follows t state i
    obtain ⟨hj, -⟩ := h.offeredAfter_follows t state j
    exact ⟨hi, hpassed, List.prefix_or_prefix_of_prefix hi hj⟩

/-- Seeds 7 and 8 of the harness, and two engines of which the second answers in level order. -/
theorem orders_independent_twoByTwo :
    let reseeded : Harness :=
      { settings := twoByTwo.settings.withSeed 8, seed := 8, valid := by decide }
    let engine : EngineSettings := { levelOffset := 3 }
    (∃ report report',
      (twoByTwo.run Simulator.transport (.ofSettings engine)).1 = .ok report ∧
      (reseeded.run Simulator.transport (.ofSettings engine)).1 = .ok report' ∧
      report.sets.map (·.arrivalOrder) = report'.sets.map (·.arrivalOrder)) ∧
    ∃ report report',
      (twoByTwo.run Simulator.transport (.ofSettings engine)).1 = .ok report ∧
      (twoByTwo.run Simulator.transport
        (.ofSettings { engine with seed := 1, reorder := false })).1 = .ok report' ∧
      report.sets.map (·.sendOrder) = report'.sets.map (·.sendOrder) ∧
      twoByTwo.offeredAfter Simulator.transport (.ofSettings engine) 0 =
        twoByTwo.stimulusFrames := by
  intro reseeded engine
  obtain ⟨harrivals, hsends, htransports, hoffered⟩ := twoByTwo.orders_independent
  have hengine : twoByTwo.Matches engine := ⟨rfl, rfl⟩
  obtain ⟨report, report', hrun, hrun', -⟩ := hsends engine
    { engine with seed := 1, reorder := false } hengine ⟨rfl, rfl⟩
  refine ⟨harrivals reseeded engine rfl hengine, report, report', hrun, hrun', ?_, ?_⟩
  · exact (htransports _ _ _ _ _ _ hrun hrun').2
  · exact (hoffered Simulator.transport (.ofSettings engine) 0 0).2.1 report hrun

end Harness

end OffloadBench
