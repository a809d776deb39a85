import OffloadBench.Proofs.Round.Outcome
import OffloadBench.Proofs.Stimulus.SetDistance

/-! # Leftover responses

A response that is owed in one set and arrives in another has the right length and names a level of the
set, so only its payload can give it away. It does unless the running sums of that level meet, and they
do not meet in sets that are less than eight apart. In any state of the reception, a leftover response
whose level is observed is refused as a duplicate, and what is refused leaves the reception as it was.
-/
namespace OffloadBench.Round
open Config Draw Wire

variable {s : Settings} {a b : UInt32} {i : UInt8}

theorem owedPayload_eq_iff (hs : s.Bounded) {l : Nat} (hl : l < s.packet.levelCount) :
    s.owedPayload a l = s.owedPayload b l ↔ s.SumsMeet a b l := by
  have hwords : s.owedPayload a l = s.owedPayload b l ↔
      ∀ e ∈ List.range s.packet.elementCount.toNat,
        UInt32.ofNat (Stimulus.prefixSum (s.inputs a) l e) =
          UInt32.ofNat (Stimulus.prefixSum (s.inputs b) l e) := List.map_inj_left
  rw [hwords]
  constructor
  · intro h
    have hword := congrArg UInt32.toNat (h 0 (List.mem_range.2 hs.elements_pos))
    rw [UInt32.toNat_ofNat', UInt32.toNat_ofNat'] at hword
    exact (Settings.prefixSum_modEq_iff hs hl hs.elements_pos).1 hword
  · intro hmeet e he
    apply UInt32.toNat_inj.1
    rw [UInt32.toNat_ofNat', UInt32.toNat_ofNat']
    exact (Settings.prefixSum_modEq_iff hs hl (List.mem_range.1 he)).2 hmeet

theorem owed_eq_iff (hs : s.Bounded) (g g' : Generator) (hi : i.toNat < s.packet.levelCount) :
    (prepared s a g).owed s.run.responseLevelOffset i =
        (prepared s b g').owed s.run.responseLevelOffset i ↔ s.SumsMeet a b i.toNat := by
  rw [owed_prepared a g hi, owed_prepared b g' hi, ← owedPayload_eq_iff hs hi]
  constructor
  · intro h
    exact congrArg Packet.payload (Packet.toBytes_injective h)
  · intro h
    rw [Settings.owedFrame, Settings.owedFrame, h]

section Arrival
variable (hs : s.Bounded) (g g' : Generator) (hi : i.toNat < s.packet.levelCount) {r : Reception}
include hs hi

/-- A leftover response names its level in the other set, too. -/
theorem levelIndex?_leftover (a b : UInt32) :
    levelIndex? (prepared s b g') s.run.responseLevelOffset
      (((prepared s a g).owed s.run.responseLevelOffset i).getD 7 0) = some i := by
  rw [← levelCount_prepared s b g'] at hi
  rw [TestSet.level_owed, levelIndex?_add hi ((wellPosed_prepared hs b g').add_le hi)]

theorem length_leftover (a b : UInt32) :
    ((prepared s a g).owed s.run.responseLevelOffset i).length = (prepared s b g').frameLength := by
  rw [length_owed_prepared hs a g _ hi, frameLength_prepared hs, frameLength_prepared hs]

theorem accept_leftover_observed (hobserved : r.observed.contains i = true) :
    accept (prepared s b g') s.run.responseLevelOffset r
        ((prepared s a g).owed s.run.responseLevelOffset i) =
      (.error (.duplicateResponse b (s.run.responseLevelOffset + i)), r) := by
  have hfailure := FirstFailure.duplicate i (length_leftover hs g g' hi a b)
    (levelIndex?_leftover hs g g' hi a b) hobserved
  rw [TestSet.level_owed] at hfailure
  exact (accept_eq_error_iff (wellPosed_prepared hs b g').fits).2 ⟨hfailure, rfl⟩

theorem accept_leftover_met (hfresh : r.observed.contains i = false)
    (hmeet : s.SumsMeet a b i.toNat) :
    accept (prepared s b g') s.run.responseLevelOffset r
        ((prepared s a g).owed s.run.responseLevelOffset i) =
      (.ok ⟨s.run.responseLevelOffset + i, i⟩,
        ⟨r.observed.insert i, r.received + 1, r.arrival ++ [i]⟩) := by
  have hset := wellPosed_prepared hs b g'
  rw [(owed_eq_iff hs g g' hi).2 hmeet]
  rw [← levelCount_prepared s b g'] at hi
  exact (accept_eq_ok_iff hset.fits).2
    ⟨i, expected_iff.2 ⟨hi, hset.add_le hi, hfresh, rfl⟩, rfl, rfl⟩

theorem accept_leftover_unmet (hfresh : r.observed.contains i = false)
    (hmeet : ¬ s.SumsMeet a b i.toNat) :
    ∃ mismatch, accept (prepared s b g') s.run.responseLevelOffset r
        ((prepared s a g).owed s.run.responseLevelOffset i) =
      (.error (.dataMismatch b (s.run.responseLevelOffset + i) mismatch), r) := by
  have hlength := length_leftover hs g g' hi a b
  have hlevel := levelIndex?_leftover hs g g' hi a b
  have hset := wellPosed_prepared hs b g'
  have hne := mt (owed_eq_iff hs g g' hi).1 hmeet
  rw [← levelCount_prepared s b g'] at hi
  cases hmismatch : firstMismatch ((prepared s b g').owed s.run.responseLevelOffset i)
      ((prepared s a g).owed s.run.responseLevelOffset i) with
  | none =>
    have hsame := (TestSet.length_owed hset.fits s.run.responseLevelOffset hi).trans hlength.symm
    exact absurd ((firstMismatch_eq_none hsame).1 hmismatch).symm hne
  | some mismatch =>
    have hexpected : (prepared s b g').expectedFrame (s.run.responseLevelOffset + i) i.toNat =
        .ok ((prepared s b g').owed s.run.responseLevelOffset i) := expectedFrame_owed hi
    rw [← (prepared s a g).level_owed] at hexpected
    have hfailure := FirstFailure.data i _ mismatch hlength hlevel hfresh hexpected hne hmismatch
    rw [TestSet.level_owed] at hfailure
    exact ⟨mismatch, (accept_eq_error_iff hset.fits).2 ⟨hfailure, rfl⟩⟩

end Arrival

/-- A response left over from one set is verified in another exactly if the running sums of its level meet
and the level is missing. -/
theorem leftover_exact (s : Settings) (hvalid : s.validate = .ok ()) (a b : UInt32)
    (g g' : Generator) (i : UInt8) (hi : i ≤ s.packet.maxLevel) :
    ∃ frame owed,
      (prepared s a g).expectedFrame (s.run.responseLevelOffset + i) i.toNat = .ok frame ∧
      (prepared s b g').expectedFrame (s.run.responseLevelOffset + i) i.toNat = .ok owed ∧
      (frame = owed ↔ (2 ^ 32 : ℤ) ∣ ((a.toNat : ℤ) - b.toNat) * (i.toNat + 1) *
        s.packet.levelCount * (max 1000 s.packet.elementCount.toNat : Nat)) ∧
      (a ≠ b → |(a.toNat : ℤ) - b.toNat| < 8 → frame ≠ owed) ∧
      ∀ r : Reception,
        (r.observed.contains i = true →
          accept (prepared s b g') s.run.responseLevelOffset r frame =
            (.error (.duplicateResponse b (s.run.responseLevelOffset + i)), r)) ∧
        (r.observed.contains i = false → frame = owed →
          accept (prepared s b g') s.run.responseLevelOffset r frame =
            (.ok ⟨s.run.responseLevelOffset + i, i⟩,
              ⟨r.observed.insert i, r.received + 1, r.arrival ++ [i]⟩)) ∧
        (r.observed.contains i = false → frame ≠ owed →
          ∃ mismatch, accept (prepared s b g') s.run.responseLevelOffset r frame =
            (.error (.dataMismatch b (s.run.responseLevelOffset + i) mismatch), r)) := by
  have hs := Settings.bounded_of_valid hvalid
  have hlt := PacketSettings.lt_levelCount hi
  have hmeet : _ ↔ s.SumsMeet a b i.toNat := owed_eq_iff hs g g' hlt
  refine ⟨_, _, expectedFrame_owed ((levelCount_prepared s a g).symm ▸ hlt),
    expectedFrame_owed ((levelCount_prepared s b g').symm ▸ hlt), hmeet, ?_, ?_⟩
  · intro hne hnear
    exact mt hmeet.1 (Settings.not_sumsMeet_of_near hs hlt hne hnear)
  · intro r
    refine ⟨accept_leftover_observed hs g g' hlt, ?_, ?_⟩
    · intro hfresh heq
      exact accept_leftover_met hs g g' hlt hfresh (hmeet.1 heq)
    · intro hfresh hne
      exact accept_leftover_unmet hs g g' hlt hfresh (mt hmeet.2 hne)

def evenLevels : Settings where
  packet := { elementCount := 8192, maxLevel := 255 }
  run := { testSets := 2048 }

/-- Eight sets later the highest level is owed the same frame once more; seven sets later it is not. -/
theorem leftover_exact_eightApart :
    evenLevels.validate = .ok () ∧ (255 : UInt8) ≤ evenLevels.packet.maxLevel ∧
      (∀ g g', ∃ frame,
        (prepared evenLevels 8 g).expectedFrame 255 255 = .ok frame ∧
          accept (prepared evenLevels 0 g') 0 {} frame =
            (.ok ⟨255, 255⟩, ⟨LevelSet.empty.insert 255, 1, [255]⟩)) ∧
      ∀ g g', ∃ frame mismatch,
        (prepared evenLevels 7 g).expectedFrame 255 255 = .ok frame ∧
          accept (prepared evenLevels 0 g') 0 {} frame =
            (.error (.dataMismatch 0 255 mismatch), {}) := by
  have hvalid : evenLevels.validate = .ok () := by decide
  have hlevel : (255 : UInt8) ≤ evenLevels.packet.maxLevel := by decide
  have hfresh : ({} : Reception).observed.contains 255 = false := by decide
  refine ⟨hvalid, hlevel, ?_, ?_⟩
  · intro g g'
    obtain ⟨frame, owed, hframe, -, hmeet, -, haccept⟩ :=
      leftover_exact evenLevels hvalid 8 0 g g' 255 hlevel
    exact ⟨frame, hframe, (haccept {}).2.1 hfresh (hmeet.2 (by decide))⟩
  · intro g g'
    obtain ⟨frame, owed, hframe, -, -, hnear, haccept⟩ :=
      leftover_exact evenLevels hvalid 7 0 g g' 255 hlevel
    obtain ⟨mismatch, hrefused⟩ := (haccept {}).2.2 hfresh (hnear (by decide) (by decide))
    exact ⟨frame, mismatch, hframe, hrefused⟩

end OffloadBench.Round
