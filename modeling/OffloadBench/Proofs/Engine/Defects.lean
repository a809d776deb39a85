import Mathlib.Logic.Function.Basic
import OffloadBench.Proofs.Engine.Rounds

/-! # Defects

One thing that the engine gets wrong in a round, and what it makes of the responses of that round.
The harness takes in owed frames until the first frame that is not owed, and the examination of that
frame decides the verdict.
-/
namespace OffloadBench.Engine
open Config Device Draw Round Wire

inductive Defect
  | corrupt (level : UInt8) (offset : Nat) (mask : UInt8)
  | truncate (level : UInt8) (bytes : Nat)
  | drop (level : UInt8)
  | empty (level : UInt8)
  | reverse
  deriving DecidableEq, Repr

namespace Defect

def faults (round : Option UInt64) : Defect → Faults
  | corrupt level offset mask => { corrupt := some ⟨level, offset, mask⟩, round }
  | truncate level bytes => { truncate := some ⟨level, bytes⟩, round }
  | drop level => { drop := some level, round }
  | empty level => { empty := some level, round }
  | reverse => { reverse := true, round }

/-- The level whose response the defect acts on; reversed sums concern all levels. -/
def level? : Defect → Option UInt8
  | corrupt level _ _ | truncate level _ | drop level | empty level => some level
  | reverse => none

variable {d : Defect} {round : Option UInt64} {r : Response}

theorem isEnabled_faults (d : Defect) (round : Option UInt64) :
    (d.faults round).isEnabled = true := by
  cases d <;> rfl

theorem round_faults (d : Defect) (round : Option UInt64) : (d.faults round).round = round := by
  cases d <;> rfl

theorem duplicate_faults (d : Defect) (round : Option UInt64) :
    (d.faults round).duplicate = none := by
  cases d <;> rfl

theorem applyTo_other (h : d.level? ≠ some r.level) :
    ((d.faults round).applyTo r).1 = some r := by
  cases d with
  | reverse => rfl
  | corrupt level | truncate level | drop level | empty level =>
    have hne : level ≠ r.level := fun heq => h (congrArg some heq)
    simp [faults, Faults.applyTo, Faults.applyEmpty, Faults.applyCorrupt, Faults.applyTruncate,
      Option.filter, hne]

theorem applyTo_corrupt (r : Response) {offset : Nat} {mask byte : UInt8}
    (hbyte : r.frame[offset]? = some byte) :
    (((corrupt r.level offset mask).faults round).applyTo r).1 =
      some { r with
        frame := r.frame.set offset (byte ^^^ (Corruption.mk r.level offset mask).bits) } := by
  simp [faults, Faults.applyTo, Faults.applyEmpty, Faults.applyCorrupt, Faults.applyTruncate,
    Option.filter, hbyte]

theorem applyTo_truncate (r : Response) (bytes : Nat) :
    (((truncate r.level bytes).faults round).applyTo r).1 =
      some { r with frame := r.frame.take (r.frame.length - bytes) } := by
  simp [faults, Faults.applyTo, Faults.applyEmpty, Faults.applyCorrupt, Faults.applyTruncate,
    Option.filter]

theorem applyTo_empty (r : Response) :
    (((empty r.level).faults round).applyTo r).1 = some { r with frame := [] } := by
  simp [faults, Faults.applyTo, Faults.applyEmpty, Faults.applyCorrupt, Faults.applyTruncate,
    Option.filter]

theorem applyTo_drop (r : Response) : (((drop r.level).faults round).applyTo r).1 = none := by
  simp [faults, Faults.applyTo]

theorem apply_reverse (rs : List Response) : (reverse.faults round).apply rs = rs := by
  rw [Faults.apply]
  exact (List.filterMap_congr fun r _ => applyTo_other (by simp [level?])).trans List.filterMap_some

section Level
variable {set : TestSet} {offset level : UInt8}

theorem apply_own {r' : Response} (hlevel : d.level? = some level)
    (hown : ((d.faults round).applyTo (sound set offset level)).1 = some r') :
    (d.faults round).apply (set.levels.map (sound set offset)) =
      set.levels.map (Function.update (sound set offset) level r') := by
  rw [Faults.apply, List.filterMap_map, ← List.filterMap_eq_map]
  refine List.filterMap_congr ?_
  intro i _
  rw [Function.comp_apply, Function.comp_apply]
  by_cases hi : i = level
  · subst hi
    rw [hown, Function.update_self]
  · rw [Function.update_of_ne hi, applyTo_other]
    rw [hlevel]
    exact fun heq => hi (Option.some.inj heq).symm

theorem apply_drop :
    ((drop level).faults round).apply (set.levels.map (sound set offset)) =
      (set.levels.filter (· ≠ level)).map (sound set offset) := by
  rw [Faults.apply, List.filterMap_map, ← List.filterMap_eq_filter, ← List.filterMap_eq_map,
    List.filterMap_filterMap]
  refine List.filterMap_congr ?_
  intro i _
  rw [Function.comp_apply]
  by_cases hi : i = level
  · subst hi
    have hown : (((drop i).faults round).applyTo (sound set offset i)).1 = none :=
      applyTo_drop (sound set offset i)
    rw [hown]
    simp [Option.guard]
  · have hne : (drop level).level? ≠ some (sound set offset i).level :=
      fun heq => hi (Option.some.inj heq).symm
    rw [applyTo_other hne]
    simp [Option.guard, hi]

end Level

end Defect

theorem exists_first_ne {f g : UInt8 → Bytes} {is : List UInt8} (h : ∃ i ∈ is, f i ≠ g i) :
    ∃ done i rest, is = done ++ i :: rest ∧ (∀ j ∈ done, f j = g j) ∧ f i ≠ g i := by
  cases hfind : is.find? (fun i => decide (f i ≠ g i)) with
  | none =>
    obtain ⟨i, hi, hne⟩ := h
    exact absurd hne (by simpa using List.find?_eq_none.1 hfind i hi)
  | some i =>
    obtain ⟨hne, done, rest, his, hdone⟩ := List.find?_eq_some_iff_append.1 hfind
    exact ⟨done, i, rest, his, fun j hj => by simpa using hdone j hj, by simpa using hne⟩

/-- Faults of one round, or else of every round, are in force in the first of their rounds and not
before. -/
theorem Faults.isActive_first {f : Faults} (henabled : f.isEnabled = true) {r : UInt32}
    (hround : f.round = some r.toUInt64 ∨ f.round = none ∧ r = 0) :
    f.isActive r.toNat = true ∧ ∀ k < r.toNat, f.isActive k = false := by
  rcases hround with hround | ⟨hround, rfl⟩
  · simp only [isActive, henabled, hround, Option.all_some, Bool.true_and, UInt32.toNat_toUInt64]
    refine ⟨beq_self_eq_true _, ?_⟩
    intro k hk
    exact beq_false_of_ne (Nat.ne_of_gt hk)
  · refine ⟨by simp [isActive, henabled, hround], ?_⟩
    intro k hk
    exact absurd hk (Nat.not_lt_zero k)

namespace Simulator

/-- An idle engine that injects the given faults into its next round. -/
structure Due (e : Simulator) (s : Settings) (f : Faults) : Prop where
  idle : e.Idle
  offset : e.settings.levelOffset = s.run.responseLevelOffset
  faults : e.settings.faults = f
  active : e.settings.faults.isActive e.stats.roundsCompleted = true

variable {e : Simulator} {set : TestSet} {offset : UInt8} {timeout : Option UInt64}
variable {s : Settings} {f : Faults}

theorem Due.sendStimuli (h : e.Due s f) (hfits : set.Fits) :
    ∃ e' : Simulator, sendStimuli transport set e = (.ok (), e') ∧
      e'.outbox = (e.settings.emitFaulty set.layout e.generator set.stimuli).responses.map
        (·.frame) := by
  refine ⟨_, sendStimuli_of_empty hfits h.idle.staged, ?_⟩
  simp only [completeRound, filled, h.active, if_true, h.idle.outbox, List.nil_append]

/-- Unless a response is repeated, what the faults leave goes into the outbox, in some order. -/
theorem Due.sendStimuli_of_apply (h : e.Due s f) (hfits : set.Fits) (hdup : f.duplicate = none)
    {answer : UInt8 → Response} {levels : List UInt8}
    (happly : f.apply (responses set.layout s.run.responseLevelOffset
      (if f.reverse then set.stimuli.reverse else set.stimuli)) = levels.map answer) :
    ∃ (is : List UInt8) (e' : Simulator), is.Perm levels ∧
      Round.sendStimuli transport set e = (.ok (), e') ∧
      e'.outbox = is.map fun i => (answer i).frame := by
  obtain ⟨is, g, hperm, harrange⟩ := e.settings.exists_arrange e.generator answer levels
  obtain ⟨e', hsend, houtbox⟩ := h.sendStimuli hfits
  refine ⟨is, e', hperm, hsend, ?_⟩
  rw [houtbox, EngineSettings.emitFaulty, h.faults, h.offset]
  dsimp only
  rw [happly, harrange, Faults.repeatFirst, hdup]
  exact List.map_map

/-- If not all frames of the outbox are owed, the first that is not ends the round. -/
theorem collectResponses_wrong (hset : set.WellPosed offset) {f : UInt8 → Bytes} {is : List UInt8}
    (hperm : is.Perm set.levels) (hle : ∀ i ∈ is, (f i).length ≤ set.frameLength)
    (hwrong : ∃ i ∈ is, f i ≠ set.owed offset i) (houtbox : e.outbox = is.map f)
    {P : Fault → Prop}
    (hrefused : ∀ done i, i.toNat < set.levelCount → i ∉ done → f i ≠ set.owed offset i →
      ∃ fault, examine set offset (.ofArrival done) (f i) = .error fault ∧ P fault) :
    ∃ fault, (collectResponses transport set offset timeout e).1 = .error fault ∧ P fault := by
  obtain ⟨done, i, rest, rfl, hdone, hne⟩ := exists_first_ne hwrong
  have hlt := TestSet.lt_of_perm hperm
  obtain ⟨hnodup', -, hdisjoint⟩ := List.nodup_append.1 (TestSet.nodup_of_perm hperm)
  have hnot : i ∉ done := fun h => hdisjoint i h i List.mem_cons_self rfl
  have hlt' : ∀ j ∈ done, j.toNat < set.levelCount := fun j hj => hlt j (List.mem_append_left _ hj)
  have hi : i.toNat < set.levelCount := hlt i (by simp)
  have hcapacity : (f i).length ≤ bufferCapacity set := by
    have := hle i (by simp)
    rw [bufferCapacity]
    omega
  rw [List.map_append, List.map_congr_left hdone] at houtbox
  have htaken := delivers_outbox (bufferCapacity set) timeout _ _ houtbox
    (length_owed_le_capacity hset.fits offset hlt')
  have hnext : Delivers transport (bufferCapacity set) timeout
      { e with outbox := f i :: rest.map f } [f i] { e with outbox := rest.map f } :=
    delivers_outbox _ _ [f i] (rest.map f) rfl (by simpa using hcapacity)
  obtain ⟨fault, hexamine, hfault⟩ := hrefused done i hi hnot hne
  cases hnext with
  | cons hreceive _ =>
    have hstop := collect_stops hnodup' hlt' hi hnot hreceive
      (awaited_copy_of_le (hle i (by simp))) hexamine
    refine ⟨fault, ?_, hfault⟩
    rw [collectResponses_owed hset hnodup' hlt' htaken]
    exact congrArg Prod.fst hstop

/-- If a response is missing, the round ends once all others are verified. -/
theorem collectResponses_missing (timeout : Option UInt64) (hset : set.WellPosed offset)
    {level : UInt8} (hlevel : level.toNat < set.levelCount) {is : List UInt8}
    (hperm : is.Perm (set.levels.filter (· ≠ level)))
    (houtbox : e.outbox = is.map (set.owed offset)) :
    (collectResponses transport set offset timeout e).1 =
      .error (.receiveTimeout set.index (set.levelCount - 1) set.levelCount) := by
  have hnodup : is.Nodup := hperm.nodup_iff.2 (set.nodup_levels.filter _)
  have hmem : ∀ i, i ∈ is ↔ i.toNat < set.levelCount ∧ i ≠ level := by
    intro i
    rw [hperm.mem_iff, List.mem_filter, TestSet.mem_levels, decide_eq_true_eq]
  have hlt : ∀ i ∈ is, i.toNat < set.levelCount := fun i hi => ((hmem i).1 hi).1
  have hnot : level ∉ is := fun h => ((hmem level).1 h).2 rfl
  have hlength : is.length + 1 = set.levelCount := by
    have hall : (level :: is).Perm set.levels := by
      refine (List.perm_ext_iff_of_nodup (List.nodup_cons.2 ⟨hnot, hnodup⟩) set.nodup_levels).2 ?_
      intro i
      rw [List.mem_cons, hmem, TestSet.mem_levels]
      by_cases hi : i = level
      · simp [hi, hlevel]
      · simp [hi]
    rw [← set.length_levels, ← hall.length_eq, List.length_cons]
  have htaken := delivers_outbox (bufferCapacity set) timeout _ []
    (houtbox.trans (List.append_nil _).symm) (length_owed_le_capacity hset.fits offset hlt)
  have hreceive := receive_of_empty (bufferCapacity set) timeout
    (e := { e with outbox := [] }) rfl
  rw [collectResponses_owed hset hnodup hlt htaken,
    collect_of_fault (Reception.not_isComplete_of_not_mem hnodup hlt hlevel hnot) hreceive rfl,
    (Reception.ofArrival_spec hnodup).2.1, ← hlength]
  rfl

end Simulator

end OffloadBench.Engine
