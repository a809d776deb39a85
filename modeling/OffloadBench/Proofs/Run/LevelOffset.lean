import OffloadBench.Proofs.Engine.Rounds
import OffloadBench.Proofs.Run.Recorded

/-! # Wrong level offsets

An engine that adds another offset to its levels than the harness takes off again is found out by
its very first response, and a set has at least one level, so there is one. The level byte of that
response names no level of the set, which the fault then says, or it names another level than the one
that was answered, and no two levels are owed one payload.
-/
namespace OffloadBench

/-- The fault tells what is wrong with a response that reports a level under the wrong offset: that
the set has no such level, or else that the payload is not the one owed for it. -/
def Fault.ExposesOffset (fault : Fault) (s : Config.Settings) (set : UInt32) (reported : UInt8) :
    Prop :=
  if s.run.responseLevelOffset.toNat ≤ reported.toNat ∧
      reported.toNat ≤ s.run.responseLevelOffset.toNat + s.packet.maxLevel.toNat then
    ∃ mismatch, fault = .dataMismatch set reported mismatch ∧
      mismatch.region.InPayload s.packet.elementCount.toNat
  else
    fault = .unknownLevel set reported s.run.responseLevelOffset
      (s.run.responseLevelOffset + s.packet.maxLevel)

end OffloadBench

namespace OffloadBench.Round
open Config Draw Wire

variable {s : Settings} {engineOffset level : UInt8}

theorem lastLevel_prepared (hs : s.Bounded) (index : UInt32) (g : Generator) :
    lastLevel (prepared s index g) s.run.responseLevelOffset =
      s.run.responseLevelOffset + s.packet.maxLevel := by
  have hle := hs.levels_le
  apply UInt8.toNat_inj.1
  rw [lastLevel, levelCount_prepared, PacketSettings.levelCount, UInt8.toNat_ofNat',
    UInt8.toNat_add]
  omega

/-- A level under the wrong offset is never paired with itself. -/
theorem ne_of_levelIndex?_eq_some {set : TestSet} {offset i : UInt8} (hne : engineOffset ≠ offset)
    (h : levelIndex? set offset (engineOffset + level) = some i) : i ≠ level := by
  rintro rfl
  exact hne ((UInt8.add_left_inj i).1 (eq_add_of_levelIndex? h).1)

/-- The examination of a frame under the wrong offset exposes it, whichever level is answered. -/
theorem examine_relabelled (hs : s.Bounded) (index : UInt32) (g : Generator)
    (hne : engineOffset ≠ s.run.responseLevelOffset)
    (hlevel : level.toNat < s.packet.levelCount) :
    ∃ fault, examine (prepared s index g) s.run.responseLevelOffset {}
        ((prepared s index g).owed engineOffset level) = .error fault ∧
      fault.ExposesOffset s index (engineOffset + level) := by
  have hset := wellPosed_prepared hs index g
  have hexamine : examine (prepared s index g) s.run.responseLevelOffset {}
      ((prepared s index g).owed engineOffset level) = _ :=
    examine_of_length (TestSet.frameLength_pos hset.fits)
      (length_owed_prepared hs index g engineOffset hlevel)
  rw [TestSet.level_owed] at hexamine
  cases hindex : levelIndex? (prepared s index g) s.run.responseLevelOffset
      (engineOffset + level) with
  | none =>
    have hout : ¬ (s.run.responseLevelOffset.toNat ≤ (engineOffset + level).toNat ∧
        (engineOffset + level).toNat ≤
          s.run.responseLevelOffset.toNat + s.packet.maxLevel.toNat) :=
      levelIndex?_eq_none_iff.1 hindex
    rw [hindex] at hexamine
    refine ⟨_, hexamine, ?_⟩
    rw [Fault.ExposesOffset, if_neg hout, lastLevel_prepared hs]
    rfl
  | some i =>
    have hother := ne_of_levelIndex?_eq_some hne hindex
    have hi := (levelIndex?_eq_some_iff.1 hindex).2
    have hlevel' : level.toNat < (prepared s index g).levelCount :=
      (levelCount_prepared s index g).symm ▸ hlevel
    have hlengths := (TestSet.length_getD_sums hi).trans (TestSet.length_getD_sums hlevel').symm
    have hpayloads : (prepared s index g).sums.getD i.toNat [] ≠
        (prepared s index g).sums.getD level.toNat [] := by
      intro heq
      exact hother (eq_of_sums_eq hs index g (levelCount_prepared s index g ▸ hi) hlevel heq)
    obtain ⟨mismatch, hmismatch, hregion⟩ := firstMismatch_of_payload_ne
      ((prepared s index g).metadata (engineOffset + level)) hlengths hpayloads
    rw [TestSet.length_getD_sums hi] at hregion
    rw [hindex] at hexamine
    dsimp only at hexamine
    rw [LevelSet.contains_empty, if_neg Bool.false_ne_true, compareFrame_eq hi, TestSet.owed,
      hmismatch] at hexamine
    refine ⟨_, hexamine, ?_⟩
    have hin : ¬ levelIndex? (prepared s index g) s.run.responseLevelOffset
        (engineOffset + level) = none := by
      rw [hindex]
      exact Option.some_ne_none _
    rw [levelIndex?_eq_none_iff, not_not] at hin
    rw [Fault.ExposesOffset]
    split
    · exact ⟨mismatch, rfl, hregion⟩
    · contradiction

end OffloadBench.Round

namespace OffloadBench.Engine.Simulator
open Config Device Draw Round Wire

variable {e : Simulator} {s : Settings}

/-- The first response decides the set. -/
theorem runSet_relabelled (hs : s.Bounded) (index : UInt32) (g : Generator) (hidle : e.Idle)
    (hquiet : e.settings.faults.isActive e.stats.roundsCompleted = false)
    (hne : e.settings.levelOffset ≠ s.run.responseLevelOffset) (log : Transcript) :
    let set := prepared s index g
    let capacity := bufferCapacity set
    ∃ (level : UInt8) (fault : Fault) (e' : Simulator) (sent : Transcript),
      level.toNat < s.packet.levelCount ∧ sent.waits = log.waits ∧
      accept set s.run.responseLevelOffset {} (set.owed e.settings.levelOffset level) =
        (.error fault, {}) ∧
      fault.ExposesOffset s index (e.settings.levelOffset + level) ∧
      runSet transport.recorded s set (e, log) = (.error fault, e', sent.push
        (.received capacity s.run.receiveTimeout
          (.ok (.copy (set.owed e.settings.levelOffset level) capacity)))) := by
  intro set capacity
  have hset := wellPosed_prepared hs index g
  have hcount := levelCount_prepared s index g
  have hperm := e.settings.departure_perm e.generator set.levels
  have hsend := sendStimuli_sound hset.fits hidle hquiet
  obtain ⟨is, g', hdeparture⟩ : ∃ is g', e.settings.departure e.generator set.levels = (is, g') :=
    ⟨_, _, rfl⟩
  rw [hdeparture] at hperm hsend
  obtain ⟨sent, hsent, hwaits⟩ := sendLevels_recorded transport set set.order e log
  rw [← sendStimuli, ← sendStimuli, hsend] at hsent
  cases is with
  | nil =>
    have hlength := hperm.length_eq
    rw [TestSet.length_levels, hcount, PacketSettings.levelCount] at hlength
    exact absurd hlength (Nat.succ_ne_zero _).symm
  | cons level rest =>
    have hlevel : level.toNat < set.levelCount := TestSet.lt_of_perm hperm level List.mem_cons_self
    have hlevel' : level.toNat < s.packet.levelCount := hcount ▸ hlevel
    obtain ⟨fault, hexamine, hexposes⟩ := examine_relabelled hs index g hne hlevel'
    have hlength := length_owed_prepared hs index g e.settings.levelOffset hlevel'
    have hcapacity : (set.owed e.settings.levelOffset level).length ≤ capacity :=
      length_owed_le_capacity hset.fits e.settings.levelOffset (TestSet.lt_of_perm hperm) _
        List.mem_cons_self
    have hreceive := receive_of_cons capacity s.run.receiveTimeout
      (e := { e.afterRounds g' 1 set.levelCount with
        outbox := (level :: rest).map (set.owed e.settings.levelOffset) }) rfl
    rw [handOver_of_le hcapacity] at hreceive
    have hcollect := collect_stops List.nodup_nil (by simp) hlevel List.not_mem_nil
      (Transport.receive_recorded hreceive sent) (awaited_copy_of_le hlength.le) hexamine
    have haccept : accept set s.run.responseLevelOffset {}
        (set.owed e.settings.levelOffset level) = (.error fault, {}) := by
      rw [accept, hexamine]
    have hrun := runSet_of_sent (s := s) hsent
    exact ⟨level, fault, _, sent, hlevel', hwaits, haccept, hexposes, hrun.trans hcollect⟩

end OffloadBench.Engine.Simulator

namespace OffloadBench.Harness
open Config Device Draw Engine Round Wire

/-- A wrong level offset is caught in the first set on the very first response, before anything is
verified. -/
theorem run_exposes_offset (h : Harness) (settings : EngineSettings)
    (hoffset : settings.levelOffset ≠ h.settings.run.responseLevelOffset)
    (hfaults : settings.faults.isEnabled = false) :
    let set := prepared h.settings 0 (.ofSeed h.seed)
    let recorded := h.run Simulator.transport.recorded (.ofSettings settings, #[])
    let log := recorded.2.2
    ∃ (level : UInt8) (fault : Fault), level ≤ h.settings.packet.maxLevel ∧
      (h.run Simulator.transport (.ofSettings settings)).1 = .error fault ∧
      recorded.1 = .error fault ∧ log.waits.length = 1 ∧
      log.back? = some (.received (bufferCapacity set) h.settings.run.receiveTimeout
        (.ok (.copy (set.owed settings.levelOffset level) (bufferCapacity set)))) ∧
      accept set h.settings.run.responseLevelOffset {} (set.owed settings.levelOffset level) =
        (.error fault, {}) ∧
      fault.ExposesOffset h.settings 0 (level + settings.levelOffset) := by
  intro set recorded log
  have hs := Settings.bounded_of_valid h.valid
  have hquiet : settings.faults.isActive 0 = false := Faults.isActive_eq_false hfaults 0
  obtain ⟨level, fault, e', sent, hlevel, hwaits, haccept, hexposes, hset⟩ :=
    Simulator.runSet_relabelled hs 0 (.ofSeed h.seed) (Simulator.idle_ofSettings settings) hquiet
      hoffset #[.queried (.ok settings.device)]
  have hpos : (0 : UInt32) < h.settings.run.testSets := UInt32.lt_iff_toNat_lt.2 hs.sets_pos
  have hrun : h.run Simulator.transport.recorded (.ofSettings settings, #[]) = _ :=
    run_of_set_error (p := {}) (d := settings.device) hpos rfl rfl hset
  have hlog : log = _ := congrArg (·.2.2) hrun
  obtain ⟨log', hplain⟩ := h.run_recorded Simulator.transport (.ofSettings settings) #[]
  refine ⟨level, fault, ?_, ?_, ?_, ?_, ?_, ?_, ?_⟩
  · exact UInt8.le_iff_toNat_le.2 (Nat.le_of_lt_succ hlevel)
  · rw [hrun] at hplain
    exact (congrArg Prod.fst hplain).symm
  · exact congrArg Prod.fst hrun
  · rw [hlog, Transcript.waits_push_received, hwaits]
    rfl
  · rw [hlog, Array.back?_push]
    rfl
  · exact haccept
  · rw [UInt8.add_comm]
    exact hexposes

/-- Where 3 is expected, offset 4 makes level 0 come back as level 1, and level 1 as none. -/
theorem run_exposes_offset_fourForThree :
    ∃ fault, (twoByTwo.run Simulator.transport (.ofSettings { levelOffset := 4 })).1 =
        .error fault ∧
      ∃ level ≤ twoByTwo.settings.packet.maxLevel,
        fault.ExposesOffset twoByTwo.settings 0 (level + 4) := by
  obtain ⟨level, fault, hlevel, hrun, -, -, -, -, hexposes⟩ :=
    twoByTwo.run_exposes_offset { levelOffset := 4 } (by decide) rfl
  exact ⟨fault, hrun, level, hlevel, hexposes⟩

end OffloadBench.Harness
