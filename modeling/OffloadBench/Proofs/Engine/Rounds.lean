import OffloadBench.Proofs.Engine.Answers
import OffloadBench.Proofs.Round.Prepared

/-! # Rounds without faults

Between two rounds nothing is staged and nothing waits to be received. A round into which no fault
is injected passes, in whatever order its responses leave, and ends between two rounds again; so do
any number of such rounds.
-/
namespace OffloadBench.Engine
open Config Device Draw Round Wire

def Stats.afterRounds (s : Stats) (rounds levels : Nat) : Stats where
  framesReceived := s.framesReceived + rounds * levels
  framesEmitted := s.framesEmitted + rounds * levels
  roundsCompleted := s.roundsCompleted + rounds
  faultsInjected := s.faultsInjected

theorem Stats.afterRounds_zero (s : Stats) (levels : Nat) : s.afterRounds 0 levels = s := by
  simp [afterRounds]

theorem Stats.afterRounds_add (s : Stats) (m n levels : Nat) :
    (s.afterRounds m levels).afterRounds n levels = s.afterRounds (m + n) levels := by
  simp [afterRounds, Nat.add_mul, Nat.add_assoc]

namespace Simulator

structure Idle (e : Simulator) : Prop where
  staged : e.staged = []
  outbox : e.outbox = []

theorem idle_ofSettings (settings : EngineSettings) : (ofSettings settings).Idle := ⟨rfl, rfl⟩

def afterRounds (e : Simulator) (g : Generator) (rounds levels : Nat) : Simulator :=
  { e with generator := g, stats := e.stats.afterRounds rounds levels }

theorem afterRounds_add (e : Simulator) (g g' : Generator) (m n levels : Nat) :
    (e.afterRounds g m levels).afterRounds g' n levels = e.afterRounds g' (m + n) levels := by
  rw [afterRounds, afterRounds, afterRounds, Stats.afterRounds_add]

variable {e : Simulator} {set : TestSet} {offset : UInt8}

theorem Idle.afterRounds (h : e.Idle) (g : Generator) (rounds levels : Nat) :
    (e.afterRounds g rounds levels).Idle := ⟨h.staged, h.outbox⟩

/-- An idle engine that injects nothing puts the owed frames into its outbox, in the order that it
lets them leave. The order they were sent in does not matter. -/
theorem sendStimuli_sound (hfits : set.Fits) (hidle : e.Idle)
    (hquiet : e.settings.faults.isActive e.stats.roundsCompleted = false) :
    sendStimuli transport set e =
      (.ok (), { e.afterRounds (e.settings.departure e.generator set.levels).2 1 set.levelCount with
        outbox := (e.settings.departure e.generator set.levels).1.map
          (set.owed e.settings.levelOffset) }) := by
  have hlength : (e.settings.departure e.generator set.levels).1.length = set.levelCount := by
    rw [(e.settings.departure_perm _ _).length_eq, set.length_levels]
  have hemit : e.settings.emit set.layout e.generator set.stimuli =
      ⟨(e.settings.departure e.generator set.levels).1.map (sound set e.settings.levelOffset), 0,
        (e.settings.departure e.generator set.levels).2⟩ := by
    rw [EngineSettings.emit, responses_sound]
    dsimp only
    rw [EngineSettings.arrange_map]
  rw [sendStimuli_of_empty hfits hidle.staged, completeRound]
  simp only [filled, hquiet, Bool.false_eq_true, if_false, hemit, hidle.outbox, List.nil_append,
    List.map_map, List.length_map, hlength]
  rw [afterRounds, Stats.afterRounds, Nat.one_mul, hidle.staged]
  rfl

variable {s : Settings}

theorem runSet_sound (hs : s.Bounded) (index : UInt32) (g : Generator) (hidle : e.Idle)
    (hoffset : e.settings.levelOffset = s.run.responseLevelOffset)
    (hquiet : e.settings.faults.isActive e.stats.roundsCompleted = false) :
    runSet transport s (prepared s index g) e =
      (.ok (.ofArrival (e.settings.departure e.generator s.levels).1),
        e.afterRounds (e.settings.departure e.generator s.levels).2 1 s.packet.levelCount) := by
  have hset := wellPosed_prepared hs index g
  have hperm := e.settings.departure_perm e.generator (prepared s index g).levels
  have hsend := sendStimuli_sound hset.fits hidle hquiet
  rw [hoffset, levelCount_prepared] at hsend
  rw [runSet_of_sent hsend]
  have hle := length_owed_le_capacity hset.fits s.run.responseLevelOffset
    (TestSet.lt_of_perm hperm)
  rw [collectResponses_of_perm hset hperm
    (delivers_outbox _ _ _ [] (List.append_nil _).symm hle), levels_prepared, afterRounds,
    hidle.outbox]

end Simulator

namespace EngineSettings

def departures (s : EngineSettings) (levels : List UInt8) : Nat → Generator → List (List UInt8)
  | 0, _ => []
  | n + 1, g => (s.departure g levels).1 :: s.departures levels n (s.departure g levels).2

def afterDepartures (s : EngineSettings) (levels : List UInt8) : Nat → Generator → Generator
  | 0, g => g
  | n + 1, g => s.afterDepartures levels n (s.departure g levels).2

theorem length_departures (s : EngineSettings) (levels : List UInt8) (n : Nat) (g : Generator) :
    (s.departures levels n g).length = n := by
  induction n generalizing g with
  | zero => rfl
  | succ n ih => exact congrArg Nat.succ (ih _)

theorem perm_of_mem_departures {s : EngineSettings} {levels : List UInt8} {n : Nat} {g : Generator}
    {is : List UInt8} (h : is ∈ s.departures levels n g) : is.Perm levels := by
  induction n generalizing g with
  | zero => exact absurd h List.not_mem_nil
  | succ n ih =>
    rcases List.mem_cons.1 h with rfl | h
    · exact s.departure_perm g levels
    · exact ih h

end EngineSettings

namespace Simulator

variable {e : Simulator} {s : Settings}

/-- A number of sets pass as long as no fault is injected into their rounds. The orders that their
responses arrive in are the engine's own. -/
theorem runSets_departures (hs : s.Bounded) (index : Nat) (g : Generator) (p : Progress) {n : Nat}
    (hidle : e.Idle) (hoffset : e.settings.levelOffset = s.run.responseLevelOffset)
    (hquiet : ∀ k < n, e.settings.faults.isActive (e.stats.roundsCompleted + k) = false) :
    runSets transport s n (UInt32.ofNat index) g p e =
      (.ok (p.extend s.packet.levelCount index g (e.settings.departures s.levels n e.generator)),
        e.afterRounds (e.settings.afterDepartures s.levels n e.generator) n
          s.packet.levelCount) := by
  induction n generalizing index g p e with
  | zero =>
    rw [runSets, EngineSettings.departures, Progress.extend, afterRounds, Stats.afterRounds_zero,
      List.length_nil, Nat.zero_mul, Nat.add_zero]
    rfl
  | succ n ih =>
    have hset := runSet_sound hs (UInt32.ofNat index) g hidle hoffset (hquiet 0 (Nat.succ_pos n))
    have hperm := e.settings.departure_perm e.generator s.levels
    have hlater : ∀ k < n,
        e.settings.faults.isActive (e.stats.roundsCompleted + 1 + k) = false := by
      intro k hk
      rw [Nat.add_assoc, Nat.add_comm 1]
      exact hquiet (k + 1) (by omega)
    have hrest := ih (index + 1) (g.order s.packet.levelCount).2
      (p.add (prepared s (UInt32.ofNat index) g)
        (.ofArrival (e.settings.departure e.generator s.levels).1))
      (hidle.afterRounds (e.settings.departure e.generator s.levels).2 1 s.packet.levelCount)
      hoffset hlater
    rw [runSets_succ_of_ok hset, ofNat_succ, hrest, afterRounds_add, Nat.add_comm 1,
      p.extend_add index g (nodup_of_perm_levels hperm) (length_of_perm_levels hperm)]
    rfl

theorem runSets_sound (hs : s.Bounded) (index : Nat) (g : Generator) (p : Progress) {n : Nat}
    (hidle : e.Idle) (hoffset : e.settings.levelOffset = s.run.responseLevelOffset)
    (hquiet : ∀ k < n, e.settings.faults.isActive (e.stats.roundsCompleted + k) = false) :
    ∃ (arrivals : List (List UInt8)) (g' : Generator), arrivals.length = n ∧
      (∀ is ∈ arrivals, is.Perm s.levels) ∧
      runSets transport s n (UInt32.ofNat index) g p e =
        (.ok (p.extend s.packet.levelCount index g arrivals),
          e.afterRounds g' n s.packet.levelCount) :=
  ⟨_, _, e.settings.length_departures s.levels n e.generator,
    fun _ => EngineSettings.perm_of_mem_departures, runSets_departures hs index g p hidle hoffset
      hquiet⟩

end Simulator

end OffloadBench.Engine
