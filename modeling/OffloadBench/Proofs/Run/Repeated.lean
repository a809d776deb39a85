import OffloadBench.Proofs.Run.Attribution
import OffloadBench.Proofs.Run.Detection
import OffloadBench.Proofs.Run.Recorded

/-! # Repeated responses

A repeated response leaves first, and its copy right behind it. The copy is noticed only if the set
still waits for another level; where there is one level alone, the first of the two completes the set
and the copy stays in the outbox.
-/
namespace OffloadBench.Engine
open Config Device Draw Round Wire

def repeating (level : UInt8) (round : Option UInt64) : Faults := { duplicate := some level, round }

theorem apply_repeating (level : UInt8) (round : Option UInt64) (rs : List Response) :
    (repeating level round).apply rs = rs := by
  rw [Faults.apply]
  refine (List.filterMap_congr fun r _ => ?_).trans List.filterMap_some
  simp [repeating, Faults.applyTo, Faults.applyEmpty, Faults.applyCorrupt, Faults.applyTruncate]

variable {set : TestSet} {level : UInt8} {round : Option UInt64}

theorem find?_sound {offset : UInt8} {is : List UInt8} (hmem : level ∈ is) :
    (is.map (sound set offset)).find? (·.level = level) = some (sound set offset level) := by
  cases hfind : (is.map (sound set offset)).find? (·.level = level) with
  | none =>
    have hnone := List.find?_eq_none.1 hfind _ (List.mem_map.2 ⟨level, hmem, rfl⟩)
    exact absurd (decide_eq_true rfl) hnone
  | some r =>
    obtain ⟨i, -, rfl⟩ := List.mem_map.1 (List.mem_of_find?_eq_some hfind)
    have hfound := List.find?_some hfind
    exact congrArg (fun i => some (sound set offset i)) (of_decide_eq_true hfound)

theorem EngineSettings.emitFaulty_repeating {s : EngineSettings}
    (hfaults : s.faults = repeating level round) (hlevel : level.toNat < set.levelCount)
    (g : Generator) :
    ∃ rest : List Response, rest.length + 1 = set.levelCount ∧
      (s.emitFaulty set.layout g set.stimuli).responses =
        sound set s.levelOffset level :: sound set s.levelOffset level :: rest := by
  obtain ⟨is, g', hperm, harrange⟩ := s.exists_arrange g (sound set s.levelOffset) set.levels
  have hmem : level ∈ is := hperm.mem_iff.2 (TestSet.mem_levels.2 hlevel)
  have hsound : sound set s.levelOffset level ∈ is.map (sound set s.levelOffset) :=
    List.mem_map.2 ⟨level, hmem, rfl⟩
  refine ⟨(is.map (sound set s.levelOffset)).eraseP (·.level = level), ?_, ?_⟩
  · have herase := List.length_eraseP_add_one (p := fun r : Response => decide (r.level = level))
      hsound (decide_eq_true rfl)
    rw [herase, List.length_map, hperm.length_eq, set.length_levels]
  · rw [emitFaulty, hfaults]
    dsimp only
    rw [show (repeating level round).reverse = false from rfl, if_neg Bool.false_ne_true,
      responses_sound, apply_repeating, harrange]
    dsimp only
    rw [Faults.repeatFirst, show (repeating level round).duplicate = some level from rfl]
    dsimp only
    rw [find?_sound hmem]

namespace Simulator

variable {e : Simulator} {s : Settings}

theorem Due.sendStimuli_repeating (h : e.Due s (repeating level round)) (hfits : set.Fits)
    (hlevel : level.toNat < set.levelCount) :
    ∃ (e' : Simulator) (rest : List Bytes), rest.length + 1 = set.levelCount ∧
      Round.sendStimuli transport set e = (.ok (), e') ∧
      e'.outbox = set.owed s.run.responseLevelOffset level ::
        set.owed s.run.responseLevelOffset level :: rest := by
  obtain ⟨e', hsend, houtbox⟩ := h.sendStimuli hfits
  obtain ⟨rest, hlength, hemit⟩ := EngineSettings.emitFaulty_repeating h.faults hlevel e.generator
  rw [hemit, h.offset, List.map_cons, List.map_cons] at houtbox
  refine ⟨e', rest.map Response.frame, ?_, hsend, houtbox⟩
  rw [List.length_map, hlength]

/-- Of several levels, the copy is the second response and no other response is waited for. -/
theorem runSet_repeated (hs : s.Bounded) (index : UInt32) (g : Generator)
    (h : e.Due s (repeating level round)) (hlevel : level.toNat < s.packet.levelCount)
    (hmany : 1 < s.packet.levelCount) (log : Transcript) :
    ∃ (e' : Simulator) (log' : Transcript),
      runSet transport.recorded s (prepared s index g) (e, log) =
        (.error (.duplicateResponse index (s.run.responseLevelOffset + level)), e', log') ∧
      log'.waits.length = log.waits.length + 2 := by
  have hset := wellPosed_prepared hs index g
  have hcount := levelCount_prepared s index g
  have hlevel' : level.toNat < (prepared s index g).levelCount := hcount.symm ▸ hlevel
  obtain ⟨e₁, rest, -, hsend, houtbox⟩ := h.sendStimuli_repeating hset.fits hlevel'
  obtain ⟨log₁, hsent, hwaits₁⟩ := sendLevels_recorded transport (prepared s index g)
    (prepared s index g).order e log
  rw [← sendStimuli, ← sendStimuli, hsend] at hsent
  have howed := length_owed_prepared hs index g s.run.responseLevelOffset hlevel
  have hsingle : ∀ i ∈ [level], i.toNat < (prepared s index g).levelCount := by simpa using hlevel'
  have hle := length_owed_le_capacity hset.fits s.run.responseLevelOffset hsingle
  obtain ⟨log₂, hfirst, hwaits₂⟩ := (delivers_outbox _ s.run.receiveTimeout [_] (_ :: rest) houtbox
    hle).recorded log₁
  obtain ⟨log₃, hcopy, hwaits₃⟩ := (delivers_outbox _ s.run.receiveTimeout [_] rest
    (e := { e₁ with outbox := (prepared s index g).owed s.run.responseLevelOffset level :: rest })
    rfl hle).recorded log₂
  have hnodup := List.nodup_singleton level
  have hcollect := collectResponses_owed hset hnodup hsingle hfirst
  cases hcopy with
  | cons hreceive hend =>
    cases hend
    have hopen : (Reception.ofArrival [level]).isComplete (prepared s index g) = false := by
      rw [← Bool.not_eq_true, Reception.isComplete_ofArrival hnodup, hcount]
      exact Nat.ne_of_lt hmany
    have hstop := collect_of_refused hopen hreceive (awaited_copy_of_le howed.le)
      (examine_owed_observed hset.fits hlevel' (hset.add_le hlevel')
        ((Reception.contains_ofArrival [level] level).2 List.mem_cons_self))
    refine ⟨{ e₁ with outbox := rest }, log₃, ?_, ?_⟩
    · rw [runSet_of_sent hsent, hcollect]
      exact hstop
    · rw [hwaits₃, hwaits₂, hwaits₁]
      rfl

/-- Of one level alone, the first response completes the set, and the copy is left behind. -/
theorem runSet_repeated_single (hs : s.Bounded) (index : UInt32) (g : Generator)
    (h : e.Due s (repeating level round)) (hlevel : level.toNat < s.packet.levelCount)
    (hone : s.packet.levelCount = 1) :
    ∃ e' : Simulator, runSet transport s (prepared s index g) e = (.ok (.ofArrival [level]), e') ∧
      e'.pending = 1 := by
  have hset := wellPosed_prepared hs index g
  have hcount := levelCount_prepared s index g
  have hlevel' : level.toNat < (prepared s index g).levelCount := hcount.symm ▸ hlevel
  obtain ⟨e₁, rest, hrest, hsend, houtbox⟩ := h.sendStimuli_repeating hset.fits hlevel'
  have hnil : rest = [] := List.eq_nil_of_length_eq_zero (by omega)
  subst hnil
  have hsingle : ∀ i ∈ [level], i.toNat < (prepared s index g).levelCount := by simpa using hlevel'
  have hperm : [level].Perm (prepared s index g).levels :=
    TestSet.perm_levels (List.nodup_singleton level) hsingle (by rw [hcount, hone]; rfl)
  have hdelivers := delivers_outbox (bufferCapacity (prepared s index g)) s.run.receiveTimeout
    ([level].map ((prepared s index g).owed s.run.responseLevelOffset)) [_] houtbox
    (length_owed_le_capacity hset.fits _ hsingle)
  refine ⟨{ e₁ with outbox := [(prepared s index g).owed s.run.responseLevelOffset level] }, ?_,
    rfl⟩
  rw [runSet_of_sent hsend]
  exact collectResponses_of_perm hset hperm hdelivers

end Simulator

end OffloadBench.Engine

namespace OffloadBench.Harness
open Config Device Draw Engine Round Simulator

variable {settings : EngineSettings} {level : UInt8} {round : Option UInt64} {r : UInt32}

theorem firstSets_repeating (h : Harness)
    (hoffset : settings.levelOffset = h.settings.run.responseLevelOffset)
    (hfaults : settings.faults = repeating level round)
    (hround : round = some r.toUInt64 ∨ round = none ∧ r = 0) :
    ∃ (p : Progress) (e : Simulator), p.verified = r.toNat * h.settings.packet.levelCount ∧
      h.firstSets Simulator.transport r.toNat (.ofSettings settings) = (.ok p, e) ∧
      e.Due h.settings (repeating level round) := by
  obtain ⟨p, e, -, hverified, hfirst, hdue⟩ := h.firstSets_due hoffset (by rw [hfaults]; rfl)
    (by rwa [hfaults])
  exact ⟨p, e, hverified, hfirst, hfaults ▸ hdue⟩

/-- With one level alone, the set of the repeated response passes too, and leaves the copy behind. -/
theorem firstSets_repeated_single (h : Harness)
    (hoffset : settings.levelOffset = h.settings.run.responseLevelOffset)
    (hfaults : settings.faults = repeating level round)
    (hlevel : level ≤ h.settings.packet.maxLevel)
    (hround : round = some r.toUInt64 ∨ round = none ∧ r = 0)
    (hzero : h.settings.packet.maxLevel = 0) :
    ∃ (p : Progress) (e : Simulator),
      h.firstSets Simulator.transport (r.toNat + 1) (.ofSettings settings) = (.ok p, e) ∧
      e.pending = 1 := by
  obtain ⟨p, e, -, hfirst, hdue⟩ := h.firstSets_repeating hoffset hfaults hround
  have hone : h.settings.packet.levelCount = 1 := by
    rw [PacketSettings.levelCount, hzero]
    rfl
  obtain ⟨e', hset, hpending⟩ := runSet_repeated_single (Settings.bounded_of_valid h.valid)
    (UInt32.ofNat r.toNat)
    ((Generator.ofSeed h.seed).afterOrders h.settings.packet.levelCount r.toNat) hdue
    (PacketSettings.lt_levelCount hlevel) hone
  exact ⟨_, e', firstSets_succ hfirst hset, hpending⟩

/-- A repeated response is detected in its own set, by its copy, right after its first copy, if and
only if there is more than one level. The sets before it wait once for each of their levels. With one
level alone, its own set passes and the copy is left for the next set. -/
theorem run_detects_repeated_iff (h : Harness) (settings : EngineSettings) (level : UInt8)
    (round : Option UInt64) (r : UInt32)
    (hoffset : settings.levelOffset = h.settings.run.responseLevelOffset)
    (hfaults : settings.faults = repeating level round)
    (hlevel : level ≤ h.settings.packet.maxLevel) (hr : r < h.settings.run.testSets)
    (hround : round = some r.toUInt64 ∨ round = none ∧ r = 0) :
    ((h.run Simulator.transport (.ofSettings settings)).1 =
          .error (.duplicateResponse r (level + h.settings.run.responseLevelOffset)) ∧
        (h.run Simulator.transport.recorded (.ofSettings settings, #[])).2.2.waits.length =
          r.toNat * h.settings.packet.levelCount + 2 ↔
      1 ≤ h.settings.packet.maxLevel) ∧
    (∃ p e log, h.firstSets Simulator.transport.recorded r.toNat
        (.ofSettings settings, #[.queried (.ok settings.device)]) = (.ok p, e, log) ∧
      log.waits.length = r.toNat * h.settings.packet.levelCount) ∧
    (h.settings.packet.maxLevel = 0 → ∃ (p : Progress) (e : Simulator),
      h.firstSets Simulator.transport (r.toNat + 1) (.ofSettings settings) = (.ok p, e) ∧
      e.pending = 1) := by
  have hsingle := h.firstSets_repeated_single hoffset hfaults hlevel hround
  obtain ⟨p, e, hverified, hfirst, hdue⟩ := h.firstSets_repeating hoffset hfaults hround
  obtain ⟨log, hfirst', hwaits⟩ := runSets_recorded Simulator.transport h.settings r.toNat 0
    (.ofSeed h.seed) {} (.ofSettings settings) #[.queried (.ok settings.device)]
  rw [show runSets Simulator.transport h.settings r.toNat 0 _ _ _ = _ from hfirst]
    at hfirst' hwaits
  have hcount : log.waits.length = r.toNat * h.settings.packet.levelCount :=
    (hwaits p rfl).trans ((Nat.zero_add _).trans hverified)
  refine ⟨⟨?_, ?_⟩, ⟨p, e, log, hfirst', hcount⟩, hsingle⟩
  · rintro ⟨hrun, -⟩
    by_contra hnot
    have hzero : h.settings.packet.maxLevel = 0 := by
      have hlt := UInt8.lt_iff_toNat_lt.1 (UInt8.not_le.1 hnot)
      change _ < 1 at hlt
      exact UInt8.toNat_inj.1 (Nat.lt_one_iff.1 hlt)
    obtain ⟨p', e', hsets, -⟩ := hsingle hzero
    obtain ⟨k, hk, htestSet⟩ := testSet?_of_run (d := settings.device) rfl
      (UInt32.lt_iff_toNat_lt.1 hr) hsets hrun
    obtain rfl : r = k := Option.some.inj htestSet
    omega
  · intro hmany
    obtain ⟨e', log', hset, hwaits'⟩ := runSet_repeated (Settings.bounded_of_valid h.valid) r
      ((Generator.ofSeed h.seed).afterOrders h.settings.packet.levelCount r.toNat) hdue
      (PacketSettings.lt_levelCount hlevel) (PacketSettings.one_lt_levelCount hmany) log
    have hrun : h.run Simulator.transport.recorded (.ofSettings settings, #[]) = _ :=
      run_of_set_error (d := settings.device) hr rfl hfirst' hset
    obtain ⟨log'', hplain⟩ := h.run_recorded Simulator.transport (.ofSettings settings) #[]
    refine ⟨?_, ?_⟩
    · rw [UInt8.add_comm]
      rw [hrun] at hplain
      exact (congrArg Prod.fst hplain).symm
    · rw [hrun, ← hcount]
      exact hwaits'

theorem run_detects_repeated_second :
    let settings : EngineSettings := { levelOffset := 3, faults := repeating 1 (some 1) }
    (twoByTwo.run Simulator.transport (.ofSettings settings)).1 =
      .error (.duplicateResponse 1 (1 + twoByTwo.settings.run.responseLevelOffset)) :=
  ((twoByTwo.run_detects_repeated_iff _ 1 (some 1) 1 rfl rfl (by decide) (by decide)
    (.inl rfl)).1.2 (by decide)).1

def oneByOne : Harness where
  settings := {
    packet := { elementCount := 1, maxLevel := 0 }
    run := { testSets := 1, seed := some 42 } }
  seed := 42
  valid := by decide

/-- A run whose only response is repeated passes. -/
theorem run_repeated_oneByOne :
    let settings : EngineSettings := { faults := repeating 0 none }
    settings.levelOffset = oneByOne.settings.run.responseLevelOffset ∧
      0 ≤ oneByOne.settings.packet.maxLevel ∧ 0 < oneByOne.settings.run.testSets ∧
      ∃ report, (oneByOne.run Simulator.transport (.ofSettings settings)).1 = .ok report := by
  refine ⟨rfl, by decide, by decide, ?_⟩
  have hfaults : ({ faults := repeating 0 none } : EngineSettings).faults = repeating 0 none := rfl
  obtain ⟨p, e, hsets, -⟩ := oneByOne.firstSets_repeated_single (r := 0) rfl hfaults (by decide)
    (.inr ⟨rfl, rfl⟩) rfl
  rw [run_of_ok (d := .ofRaw 0x020000000001) rfl hsets]
  exact ⟨_, rfl⟩

end OffloadBench.Harness
