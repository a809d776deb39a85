import OffloadBench.Proofs.Engine.Defects
import OffloadBench.Proofs.Engine.Reversal

/-! # Detection of defects

A defect that changes anything in the responses of a round is found in the set of that round, and
the fault names what is wrong: the class, and for a corrupted byte its offset. It makes no difference
which level is concerned, in which order the responses leave, or what was verified before.
-/
namespace OffloadBench.Engine
open Config Device Draw Round Wire

namespace Defect

/-- The defect concerns a level there is, and changes something in its response. -/
def Effective (p : PacketSettings) : Defect → Prop
  | corrupt level offset _ => level ≤ p.maxLevel ∧ offset < p.layout.frameLength.toNat
  | truncate level bytes => level ≤ p.maxLevel ∧ 1 ≤ bytes
  | drop level | empty level => level ≤ p.maxLevel
  | reverse => 1 ≤ p.maxLevel

/-- What a run has to report of a defect in a set. A response whose level byte is corrupted may claim
any level, so no single class fits. -/
def Reported (s : Settings) (set : UInt32) (fault : Fault) : Defect → Prop
  | corrupt level offset _ =>
    if offset = 7 then
      fault.faultClass = .unknownLevel ∨ fault.faultClass = .duplicate ∨
        fault.faultClass = .dataMismatch
    else ∃ mismatch, mismatch.offset = offset ∧
      fault = .dataMismatch set (s.run.responseLevelOffset + level) mismatch
  | truncate _ bytes =>
    if bytes < s.packet.layout.frameLength.toNat then
      fault = .length set s.packet.layout.frameLength.toNat
        (s.packet.layout.frameLength.toNat - bytes)
    else fault.faultClass = .transport
  | drop _ => fault = .receiveTimeout set s.packet.maxLevel.toNat s.packet.levelCount
  | empty _ => fault.faultClass = .transport
  | reverse => fault.faultClass = .dataMismatch

structure Detected (d : Defect) (s : Settings) (set : UInt32) (fault : Fault) : Prop where
  testSet : fault.testSet? = some set
  phase : fault.phase = .receiving
  reported : d.Reported s set fault

end Defect

theorem Corruption.bits_ne_zero (c : Corruption) : c.bits ≠ 0 := by
  unfold bits
  split
  · decide
  · assumption

theorem Corruption.ne_xor_bits (c : Corruption) (byte : UInt8) : byte ≠ byte ^^^ c.bits := by
  intro heq
  apply c.bits_ne_zero
  have hzero : byte ^^^ 0 = byte ^^^ c.bits := by rw [UInt8.xor_zero, ← heq]
  exact ((UInt8.xor_right_inj byte).1 hzero).symm

namespace Simulator

section Refused
variable {set : TestSet} {offset level : UInt8} {done : List UInt8}

/-- A frame with one other byte changed is compared with the owed frame, and differs there. -/
theorem examine_set (hset : set.WellPosed offset) (hlevel : level.toNat < set.levelCount)
    (hnot : level ∉ done) {i : Nat} {old new : UInt8} (hold : (set.owed offset level)[i]? = some old)
    (hne : old ≠ new) (hi : i ≠ 7) :
    ∃ mismatch, mismatch.offset = i ∧
      examine set offset (.ofArrival done) ((set.owed offset level).set i new) =
        .error (.dataMismatch set.index (offset + level) mismatch) := by
  obtain ⟨mismatch, hmismatch, hoffset⟩ := firstMismatch_set hold hne
  refine ⟨mismatch, hoffset, ?_⟩
  refine examine_of_level hset.fits hlevel (hset.add_le hlevel)
    (Reception.contains_ofArrival_eq_false.2 hnot) ?_ ?_ hmismatch
  · rw [List.length_set, TestSet.length_owed hset.fits offset hlevel]
  · rw [List.getD_eq_getElem?_getD, List.getElem?_set_ne hi, ← List.getD_eq_getElem?_getD,
      TestSet.level_owed]

/-- A frame whose level byte is changed is not owed for any level: not for its own because of that
byte, and not for another because no two levels are owed one payload. -/
theorem set_level_ne_owed {s : Settings} (hs : s.Bounded) (index : UInt32) (g : Generator)
    {old new : UInt8} (hlevel : level.toNat < s.packet.levelCount)
    (hold : ((prepared s index g).owed offset level)[7]? = some old) (hne : old ≠ new)
    {i : UInt8} (hi : i.toNat < s.packet.levelCount) :
    ((prepared s index g).owed offset level).set 7 new ≠ (prepared s index g).owed offset i := by
  intro heq
  have hpayload := congrArg (fun frame : Bytes => payloadOf (frame.drop 8)) heq
  simp only [List.drop_set_of_lt (show 7 < 8 by omega), TestSet.payloadOf_owed] at hpayload
  obtain rfl := eq_of_sums_eq hs index g hlevel hi hpayload
  have hbyte := congrArg (fun frame : Bytes => frame[7]?) heq
  obtain ⟨hlt, -⟩ := List.getElem?_eq_some_iff.1 hold
  simp only [List.getElem?_set_self hlt, hold] at hbyte
  exact hne (Option.some.inj hbyte).symm

end Refused

variable {e : Simulator} {s : Settings} {d : Defect} {round : Option UInt64} {level : UInt8}

/-- A defect of one level's response decides the set once that response is examined. -/
theorem runSet_own (hs : s.Bounded) (index : UInt32) (g : Generator) (hdue : e.Due s (d.faults round))
    (hown : d.level? = some level) (hlevel : level.toNat < s.packet.levelCount) {r : Response}
    (happly : ((d.faults round).applyTo
      (sound (prepared s index g) s.run.responseLevelOffset level)).1 = some r)
    (hle : r.frame.length ≤ (prepared s index g).frameLength)
    (hne : r.frame ≠ (prepared s index g).owed s.run.responseLevelOffset level) {P : Fault → Prop}
    (hrefused : ∀ done, level ∉ done → ∃ fault,
      examine (prepared s index g) s.run.responseLevelOffset (.ofArrival done) r.frame =
        .error fault ∧ P fault) :
    ∃ fault, (runSet transport s (prepared s index g) e).1 = .error fault ∧ P fault := by
  have hset := wellPosed_prepared hs index g
  have hreverse : (d.faults round).reverse = false := by
    cases d with
    | reverse => cases hown
    | corrupt | truncate | drop | empty => rfl
  obtain ⟨is, e', hperm, hsend, houtbox⟩ := hdue.sendStimuli_of_apply hset.fits
    (d.duplicate_faults round) (by
    rw [hreverse, if_neg Bool.false_ne_true, responses_sound]
    exact Defect.apply_own hown happly)
  rw [runSet_of_sent hsend]
  have hmem : level ∈ (prepared s index g).levels :=
    TestSet.mem_levels.2 ((levelCount_prepared s index g).symm ▸ hlevel)
  have hother : ∀ i, i ≠ level → (Function.update
      (sound (prepared s index g) s.run.responseLevelOffset) level r i).frame =
        (prepared s index g).owed s.run.responseLevelOffset i := by
    intro i hi
    rw [Function.update_of_ne hi]
    rfl
  refine collectResponses_wrong hset hperm ?_ ⟨level, hperm.mem_iff.2 hmem, ?_⟩ houtbox ?_
  · intro i hi
    by_cases heq : i = level
    · rw [heq, Function.update_self]
      exact hle
    · rw [hother i heq]
      exact (TestSet.length_owed hset.fits _ (TestSet.lt_of_perm hperm i hi)).le
  · rwa [Function.update_self]
  · intro done i _ hnot hwrong
    by_cases heq : i = level
    · subst heq
      rw [Function.update_self]
      exact hrefused done hnot
    · exact absurd (hother i heq) hwrong

theorem runSet_corrupt (hs : s.Bounded) (index : UInt32) (g : Generator) {offset : Nat}
    {mask : UInt8} (hdue : e.Due s ((Defect.corrupt level offset mask).faults round))
    (heffective : (Defect.corrupt level offset mask).Effective s.packet) :
    ∃ fault, (runSet transport s (prepared s index g) e).1 = .error fault ∧
      (Defect.corrupt level offset mask).Detected s index fault := by
  have hset := wellPosed_prepared hs index g
  have hlt := PacketSettings.lt_levelCount heffective.1
  have hlt' : level.toNat < (prepared s index g).levelCount :=
    (levelCount_prepared s index g).symm ▸ hlt
  have hlength := length_owed_prepared hs index g s.run.responseLevelOffset hlt
  have hoffset : offset <
      ((prepared s index g).owed s.run.responseLevelOffset level).length := by
    rw [hlength]
    exact heffective.2
  obtain ⟨byte, hbyte⟩ : ∃ byte,
      ((prepared s index g).owed s.run.responseLevelOffset level)[offset]? = some byte :=
    ⟨_, List.getElem?_eq_getElem hoffset⟩
  have hne := (Corruption.mk level offset mask).ne_xor_bits byte
  have hlength' : (((prepared s index g).owed s.run.responseLevelOffset level).set offset
      (byte ^^^ (Corruption.mk level offset mask).bits)).length =
        (prepared s index g).frameLength := by rw [List.length_set, hlength]
  refine runSet_own hs index g hdue rfl hlt (Defect.applyTo_corrupt (sound _ _ level) hbyte)
    hlength'.le ?_ ?_
  · intro heq
    have hsame := congrArg (fun frame : Bytes => frame[offset]?) heq
    simp only [sound, List.getElem?_set_self hoffset, hbyte] at hsame
    exact hne (Option.some.inj hsame).symm
  · intro done hnot
    by_cases hseven : offset = 7
    · subst hseven
      obtain ⟨fault, hexamine, htestSet, hphase, hclass⟩ := examine_of_not_owed
        s.run.responseLevelOffset (.ofArrival done) hset.fits hlength'
        (fun i hi => set_level_ne_owed hs index g hlt hbyte hne
          (levelCount_prepared s index g ▸ hi))
      refine ⟨fault, hexamine, htestSet, hphase, ?_⟩
      rwa [Defect.Reported, if_pos rfl]
    · obtain ⟨mismatch, hat, hexamine⟩ := examine_set hset hlt' hnot hbyte hne hseven
      refine ⟨_, hexamine, rfl, rfl, ?_⟩
      rw [Defect.Reported, if_neg hseven]
      exact ⟨mismatch, hat, rfl⟩

/-- What is left of a truncated response has the wrong length, or nothing is left of it. -/
theorem runSet_truncate (hs : s.Bounded) (index : UInt32) (g : Generator) {bytes : Nat}
    (hdue : e.Due s ((Defect.truncate level bytes).faults round))
    (heffective : (Defect.truncate level bytes).Effective s.packet) :
    ∃ fault, (runSet transport s (prepared s index g) e).1 = .error fault ∧
      (Defect.truncate level bytes).Detected s index fault := by
  have hlt := PacketSettings.lt_levelCount heffective.1
  have hlength := length_owed_prepared hs index g s.run.responseLevelOffset hlt
  have hpos := TestSet.frameLength_pos (wellPosed_prepared hs index g).fits
  have hbytes : 1 ≤ bytes := heffective.2
  have hkept : (((prepared s index g).owed s.run.responseLevelOffset level).take
      (((prepared s index g).owed s.run.responseLevelOffset level).length - bytes)).length =
        (prepared s index g).frameLength - bytes := by
    rw [List.length_take, hlength]
    omega
  refine runSet_own hs index g hdue rfl hlt (Defect.applyTo_truncate (sound _ _ level) bytes)
    ?_ ?_ ?_
  · exact hkept.le.trans (Nat.sub_le _ _)
  · intro heq
    have hsame := congrArg List.length heq
    rw [hlength] at hsame
    have : (prepared s index g).frameLength - bytes = (prepared s index g).frameLength :=
      hkept.symm.trans hsame
    omega
  · intro done _
    by_cases hleft : bytes < (prepared s index g).frameLength
    · refine ⟨_, examine_of_length_ne (List.ne_nil_of_length_pos ?_) ?_, rfl, rfl, ?_⟩
      · exact hkept.symm ▸ Nat.sub_pos_of_lt hleft
      · exact fun heq => absurd (hkept.symm.trans heq) (by omega)
      · rw [Defect.Reported, if_pos (show bytes < s.packet.layout.frameLength.toNat from hleft)]
        exact congrArg (Fault.length index _) hkept
    · have hnil : ((prepared s index g).owed s.run.responseLevelOffset level).take
          (((prepared s index g).owed s.run.responseLevelOffset level).length - bytes) = [] := by
        refine List.eq_nil_of_length_eq_zero ?_
        rw [hkept]
        omega
      refine ⟨_, (congrArg (examine _ _ _) hnil).trans examine_nil, rfl, rfl, ?_⟩
      rw [Defect.Reported, if_neg (show ¬ bytes < s.packet.layout.frameLength.toNat from hleft)]
      rfl

theorem runSet_empty (hs : s.Bounded) (index : UInt32) (g : Generator)
    (hdue : e.Due s ((Defect.empty level).faults round)) (heffective : level ≤ s.packet.maxLevel) :
    ∃ fault, (runSet transport s (prepared s index g) e).1 = .error fault ∧
      (Defect.empty level).Detected s index fault := by
  have hlt := PacketSettings.lt_levelCount heffective
  have hlength := length_owed_prepared hs index g s.run.responseLevelOffset hlt
  have hpos := TestSet.frameLength_pos (wellPosed_prepared hs index g).fits
  refine runSet_own hs index g hdue rfl hlt (Defect.applyTo_empty (sound _ _ level))
    (Nat.zero_le _) ?_ ?_
  · intro heq
    rw [← heq, List.length_nil] at hlength
    omega
  · intro done _
    exact ⟨_, examine_nil, rfl, rfl, rfl⟩

theorem runSet_drop (hs : s.Bounded) (index : UInt32) (g : Generator)
    (hdue : e.Due s ((Defect.drop level).faults round)) (heffective : level ≤ s.packet.maxLevel) :
    ∃ fault, (runSet transport s (prepared s index g) e).1 = .error fault ∧
      (Defect.drop level).Detected s index fault := by
  have hset := wellPosed_prepared hs index g
  have hcount := levelCount_prepared s index g
  obtain ⟨is, e', hperm, hsend, houtbox⟩ := hdue.sendStimuli_of_apply hset.fits rfl
    ((congrArg _ (responses_sound _ _)).trans Defect.apply_drop)
  have hmissing := collectResponses_missing s.run.receiveTimeout hset
    (hcount.symm ▸ PacketSettings.lt_levelCount heffective) hperm houtbox
  rw [runSet_of_sent hsend]
  refine ⟨_, hmissing, rfl, rfl, ?_⟩
  rw [hcount]
  rfl

/-- Every response has the right length and the right level byte, so the first wrong sum shows. -/
theorem runSet_reverse (hs : s.Bounded) (index : UInt32) (g : Generator)
    (hdue : e.Due s (Defect.reverse.faults round)) (heffective : 1 ≤ s.packet.maxLevel) :
    ∃ fault, (runSet transport s (prepared s index g) e).1 = .error fault ∧
      Defect.reverse.Detected s index fault := by
  have hset := wellPosed_prepared hs index g
  have hcount := levelCount_prepared s index g
  obtain ⟨is, e', hperm, hsend, houtbox⟩ := hdue.sendStimuli_of_apply hset.fits rfl
    ((congrArg _ (responses_reverse _ _)).trans (Defect.apply_reverse _))
  have hperm' : is.Perm (prepared s index g).levels := hperm.trans (List.reverse_perm _)
  have hlt := TestSet.lt_of_perm hperm'
  have hlength : ∀ i : UInt8, i.toNat < (prepared s index g).levelCount →
      (response (prepared s index g) s.run.responseLevelOffset i
        (reverseSum (prepared s index g) i)).frame.length = (prepared s index g).frameLength :=
    fun i hi => TestSet.length_toBytes hset.fits (length_reverseSum hi)
  rw [runSet_of_sent hsend]
  refine collectResponses_wrong hset hperm' (fun i hi => (hlength i (hlt i hi)).le) ?_ houtbox ?_
  · obtain ⟨i, hi, hne⟩ := exists_reverseSum_ne hs index g
      (PacketSettings.one_lt_levelCount heffective)
    refine ⟨i, hperm'.mem_iff.2 (TestSet.mem_levels.2 (hcount.symm ▸ hi)), ?_⟩
    intro heq
    exact hne (congrArg Packet.payload (Packet.toBytes_injective heq))
  · intro done i hi hnot hwrong
    cases hmismatch : firstMismatch ((prepared s index g).owed s.run.responseLevelOffset i)
        (response (prepared s index g) s.run.responseLevelOffset i
          (reverseSum (prepared s index g) i)).frame with
    | none =>
      have hsame := (TestSet.length_owed hset.fits s.run.responseLevelOffset hi).trans
        (hlength i hi).symm
      exact absurd ((firstMismatch_eq_none hsame).1 hmismatch).symm hwrong
    | some mismatch =>
      have hbyte : (response (prepared s index g) s.run.responseLevelOffset i
          (reverseSum (prepared s index g) i)).frame.getD 7 0 = s.run.responseLevelOffset + i := by
        rw [response, ← level_ofBytes, Packet.ofBytes_toBytes]
        rfl
      exact ⟨_, examine_of_level hset.fits hi (hset.add_le hi)
        (Reception.contains_ofArrival_eq_false.2 hnot) (hlength i hi) hbyte hmismatch, rfl, rfl,
        rfl⟩

theorem runSet_defect (hs : s.Bounded) (index : UInt32) (g : Generator)
    (hdue : e.Due s (d.faults round)) (heffective : d.Effective s.packet) :
    ∃ fault, (runSet transport s (prepared s index g) e).1 = .error fault ∧
      d.Detected s index fault := by
  cases d with
  | corrupt level offset mask => exact runSet_corrupt hs index g hdue heffective
  | truncate level bytes => exact runSet_truncate hs index g hdue heffective
  | drop level => exact runSet_drop hs index g hdue heffective
  | empty level => exact runSet_empty hs index g hdue heffective
  | reverse => exact runSet_reverse hs index g hdue heffective

end Simulator

end OffloadBench.Engine

namespace OffloadBench.Harness
open Config Draw Engine Round

/-- All sets before the first faulty round pass, and leave the engine idle and due. -/
theorem firstSets_due (h : Harness) {settings : EngineSettings} {r : UInt32}
    (hoffset : settings.levelOffset = h.settings.run.responseLevelOffset)
    (henabled : settings.faults.isEnabled = true)
    (hround : settings.faults.round = some r.toUInt64 ∨ settings.faults.round = none ∧ r = 0) :
    ∃ (p : Progress) (e : Simulator), p.sets.length = r.toNat ∧
      p.verified = r.toNat * h.settings.packet.levelCount ∧
      h.firstSets Simulator.transport r.toNat (.ofSettings settings) = (.ok p, e) ∧
      e.Due h.settings settings.faults := by
  obtain ⟨hactive, hquiet⟩ := Faults.isActive_first henabled hround
  have hidle := Simulator.idle_ofSettings settings
  obtain ⟨arrivals, g, hcount, -, hsets⟩ := Simulator.runSets_sound
    (Settings.bounded_of_valid h.valid) 0 (.ofSeed h.seed) {} hidle hoffset
    (fun k hk => (congrArg _ (Nat.zero_add k)).trans (hquiet k hk))
  refine ⟨_, _, ?_, ?_, hsets, hidle.afterRounds _ _ _, hoffset, rfl, ?_⟩
  · rw [Progress.extend, List.append_nil, List.length_reverse, length_reports, hcount]
  · rw [Progress.extend, hcount, Nat.zero_add]
  · exact (congrArg _ (Nat.zero_add r.toNat)).trans hactive

/-- Every data, length or loss defect is detected in its own set. Over a fresh engine with one
effective defect, shown in a round of the run or from the first round on, all sets before that round
pass, and the run fails in its set with a fault that says what is wrong. -/
theorem run_detects_defect (h : Harness) (settings : EngineSettings) (d : Defect)
    (round : Option UInt64) (r : UInt32)
    (hoffset : settings.levelOffset = h.settings.run.responseLevelOffset)
    (hfaults : settings.faults = d.faults round) (heffective : d.Effective h.settings.packet)
    (hr : r < h.settings.run.testSets)
    (hround : round = some r.toUInt64 ∨ round = none ∧ r = 0) :
    (∃ p, (h.firstSets Simulator.transport r.toNat (.ofSettings settings)).1 = .ok p ∧
      p.sets.length = r.toNat ∧ p.verified = r.toNat * h.settings.packet.levelCount) ∧
    ∃ fault, (h.run Simulator.transport (.ofSettings settings)).1 = .error fault ∧
      d.Detected h.settings r fault := by
  obtain ⟨p, e, hlength, hverified, hfirst, hdue⟩ := h.firstSets_due hoffset
    (by rw [hfaults, d.isEnabled_faults]) (by rwa [hfaults, d.round_faults])
  rw [hfaults] at hdue
  refine ⟨⟨p, by rw [hfirst], hlength, hverified⟩, ?_⟩
  obtain ⟨fault, hset, hdetected⟩ := Simulator.runSet_defect
    (Settings.bounded_of_valid h.valid) r
    ((Generator.ofSeed h.seed).afterOrders h.settings.packet.levelCount r.toNat) hdue heffective
  have hdevice : Simulator.transport.device (.ofSettings settings) =
      (.ok settings.device, .ofSettings settings) := rfl
  have hrun := run_of_set_error hr hdevice hfirst (Prod.ext hset rfl)
  exact ⟨fault, by rw [hrun], hdetected⟩

theorem run_detects_defect_levelByte :
    let d := Defect.corrupt 1 7 0x80
    let settings : EngineSettings := { levelOffset := 3, faults := d.faults (some 1) }
    ∃ fault, (twoByTwo.run Simulator.transport (.ofSettings settings)).1 = .error fault ∧
      d.Detected twoByTwo.settings 1 fault :=
  (twoByTwo.run_detects_defect _ (.corrupt 1 7 0x80) (some 1) 1 rfl rfl ⟨by decide, by decide⟩
    (by decide) (.inl rfl)).2

end OffloadBench.Harness
