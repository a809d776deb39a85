import OffloadBench.Proofs.Round.Reachable

/-! # The outcome of one frame

Whatever a reception holds and whatever comes in, a frame is verified exactly if it is the frame expected
for a level that is still missing, and the reception then holds one level more. Every other frame is
refused for the first check that it fails and leaves the reception alone.

The levels of which a refusal says that they belong to the set are those that do. For each of them there
is an expected frame to compare with, as long as a frame, so no frame is found malformed. That the length
of a frame is a word holds of every payload that fits a memory.
-/
namespace OffloadBench.Round
open Wire

/-- The frame is the one expected for a level of the set that is not yet verified and whose level byte
exists. -/
structure Expected (set : TestSet) (offset : UInt8) (r : Reception) (frame : Bytes)
    (index : UInt8) : Prop where
  lt_levelCount : index.toNat < set.levelCount
  fresh : r.observed.contains index = false
  add_le : offset.toNat + index.toNat ≤ 255
  frame_eq : set.expectedFrame (offset + index) index.toNat = .ok frame

/-- The fault of a frame that is refused: of the checks, in their order, the first that it fails. -/
inductive FirstFailure (set : TestSet) (offset : UInt8) (r : Reception) (frame : Bytes) :
    Fault → Prop
  | empty (h : frame = []) :
    FirstFailure set offset r frame
      (.transport set.index .receiving "receive returned a non-positive length" none)
  | length (hne : frame ≠ []) (h : frame.length ≠ set.frameLength) :
    FirstFailure set offset r frame (.length set.index set.frameLength frame.length)
  | unknownLevel (hlength : frame.length = set.frameLength)
    (h : ¬ (offset ≤ frame.getD 7 0 ∧ frame.getD 7 0 ≤ lastLevel set offset)) :
    FirstFailure set offset r frame
      (.unknownLevel set.index (frame.getD 7 0) offset (lastLevel set offset))
  | duplicate (index : UInt8) (hlength : frame.length = set.frameLength)
    (hlevel : levelIndex? set offset (frame.getD 7 0) = some index)
    (h : r.observed.contains index = true) :
    FirstFailure set offset r frame (.duplicateResponse set.index (frame.getD 7 0))
  | data (index : UInt8) (expected : Bytes) (mismatch : Mismatch)
    (hlength : frame.length = set.frameLength)
    (hlevel : levelIndex? set offset (frame.getD 7 0) = some index)
    (hfresh : r.observed.contains index = false)
    (hexpected : set.expectedFrame (frame.getD 7 0) index.toNat = .ok expected)
    (h : frame ≠ expected) (hmismatch : firstMismatch expected frame = some mismatch) :
    FirstFailure set offset r frame (.dataMismatch set.index (frame.getD 7 0) mismatch)

variable {set : TestSet} {offset : UInt8} {r : Reception} {frame : Bytes} {index : UInt8}

/-- The range of level bytes that a refusal names is the range of those that belong to the set. -/
theorem le_lastLevel_iff {byte : UInt8} :
    offset ≤ byte ∧ byte ≤ lastLevel set offset ↔ ∃ index, levelIndex? set offset byte = some index := by
  have hbyte := byte.toNat_lt
  have hcount := set.levelCount_eq
  have hlast : (lastLevel set offset).toNat = min 255 (offset.toNat + (set.levelCount - 1)) := by
    rw [lastLevel, UInt8.toNat_ofNat']
    omega
  rw [Config.PacketSettings.levelCount] at hcount
  rw [← Option.isSome_iff_exists, ← Option.ne_none_iff_isSome, ne_eq, levelIndex?_eq_none_iff, not_not,
    UInt8.le_iff_toNat_le, UInt8.le_iff_toNat_le, hlast]
  omega

theorem expectedFrame_owed (h : index.toNat < set.levelCount) :
    set.expectedFrame (offset + index) index.toNat = .ok (set.owed offset index) :=
  TestSet.expectedFrame_eq h

theorem expected_iff : Expected set offset r frame index ↔
    index.toNat < set.levelCount ∧ offset.toNat + index.toNat ≤ 255 ∧
      r.observed.contains index = false ∧ frame = set.owed offset index := by
  constructor
  · rintro ⟨hlt, hfresh, hle, hframe⟩
    rw [expectedFrame_owed hlt] at hframe
    exact ⟨hlt, hle, hfresh, (Except.ok.inj hframe).symm⟩
  · rintro ⟨hlt, hle, hfresh, rfl⟩
    exact ⟨hlt, hfresh, hle, expectedFrame_owed hlt⟩

theorem examine_eq_ok_iff (hfits : set.Fits) {v : Verified} :
    examine set offset r frame = .ok v ↔
      ∃ index, Expected set offset r frame index ∧ v = ⟨offset + index, index⟩ := by
  constructor
  · intro h
    obtain ⟨index, hlt, hle, hfresh, rfl, rfl⟩ := owed_of_examine_ok hfits h
    exact ⟨index, expected_iff.2 ⟨hlt, hle, hfresh, rfl⟩, rfl⟩
  · rintro ⟨index, hexpected, rfl⟩
    obtain ⟨hlt, hle, hfresh, rfl⟩ := expected_iff.1 hexpected
    exact examine_owed hfits hlt hle hfresh

theorem examine_of_firstFailure (hfits : set.Fits) {fault : Fault}
    (h : FirstFailure set offset r frame fault) : examine set offset r frame = .error fault := by
  have hpos := TestSet.frameLength_pos hfits
  cases h with
  | empty h =>
    subst h
    rfl
  | length hne h => exact examine_of_length_ne hne h
  | unknownLevel hlength h =>
    rw [le_lastLevel_iff, ← Option.isSome_iff_exists, Option.not_isSome_iff_eq_none] at h
    rw [examine_of_length hpos hlength, h]
  | duplicate index hlength hlevel h =>
    rw [examine_of_length hpos hlength, hlevel]
    exact if_pos h
  | data index expected mismatch hlength hlevel hfresh hexpected h hmismatch =>
    have hlt := (levelIndex?_eq_some_iff.1 hlevel).2
    rw [TestSet.expectedFrame_eq hlt] at hexpected
    cases hexpected
    rw [examine_of_length hpos hlength, hlevel]
    dsimp only
    rw [hfresh, if_neg Bool.false_ne_true, compareFrame_eq hlt, hmismatch]

/-- A frame fails a check, or it is the expected one. -/
theorem firstFailure_or_expected (hfits : set.Fits) (offset : UInt8) (r : Reception)
    (frame : Bytes) : (∃ fault, FirstFailure set offset r frame fault) ∨
      ∃ index, Expected set offset r frame index := by
  by_cases hempty : frame = []
  · exact Or.inl ⟨_, .empty hempty⟩
  by_cases hlength : frame.length = set.frameLength
  swap
  · exact Or.inl ⟨_, .length hempty hlength⟩
  cases hlevel : levelIndex? set offset (frame.getD 7 0) with
  | none =>
    refine Or.inl ⟨_, .unknownLevel hlength ?_⟩
    rw [le_lastLevel_iff, hlevel]
    simp
  | some index =>
    obtain ⟨hsum, hle, hlt⟩ := eq_add_of_levelIndex? hlevel
    cases hobserved : r.observed.contains index with
    | true => exact Or.inl ⟨_, .duplicate index hlength hlevel hobserved⟩
    | false =>
      by_cases hframe : frame = set.owed offset index
      · exact Or.inr ⟨index, expected_iff.2 ⟨hlt, hle, hobserved, hframe⟩⟩
      · cases hmismatch : firstMismatch (set.owed offset index) frame with
        | none =>
          have hsame := (TestSet.length_owed hfits offset hlt).trans hlength.symm
          exact absurd ((firstMismatch_eq_none hsame).1 hmismatch).symm hframe
        | some mismatch =>
          refine Or.inl ⟨_, .data index _ mismatch hlength hlevel hobserved ?_ hframe hmismatch⟩
          rw [hsum]
          exact expectedFrame_owed hlt

theorem examine_eq_error_iff (hfits : set.Fits) {fault : Fault} :
    examine set offset r frame = .error fault ↔ FirstFailure set offset r frame fault := by
  refine ⟨?_, examine_of_firstFailure hfits⟩
  intro h
  rcases firstFailure_or_expected hfits offset r frame with ⟨fault', hfailure⟩ | ⟨index, hexpected⟩
  · rw [examine_of_firstFailure hfits hfailure] at h
    cases h
    exact hfailure
  · rw [(examine_eq_ok_iff hfits).2 ⟨index, hexpected, rfl⟩] at h
    cases h

theorem FirstFailure.ne_malformed {fault : Fault} (h : FirstFailure set offset r frame fault) :
    fault.faultClass ≠ .malformed := by
  cases h <;> exact of_decide_eq_false rfl

theorem accept_eq_ok_iff (hfits : set.Fits) {v : Verified} {r' : Reception} :
    accept set offset r frame = (.ok v, r') ↔
      ∃ index, Expected set offset r frame index ∧ v = ⟨offset + index, index⟩ ∧
        r' = ⟨r.observed.insert index, r.received + 1, r.arrival ++ [index]⟩ := by
  have hrecord : ∀ {index}, r.observed.contains index = false → r.record index =
      ⟨r.observed.insert index, r.received + 1, r.arrival ++ [index]⟩ := by
    intro index hfresh
    simp [Reception.record_eq, hfresh]
  constructor
  · intro h
    obtain ⟨hexamine, rfl⟩ := accept_eq_ok h
    obtain ⟨index, hexpected, rfl⟩ := (examine_eq_ok_iff hfits).1 hexamine
    exact ⟨index, hexpected, rfl, hrecord hexpected.fresh⟩
  · rintro ⟨index, hexpected, rfl, rfl⟩
    rw [accept, (examine_eq_ok_iff hfits).2 ⟨index, hexpected, rfl⟩, ← hrecord hexpected.fresh]

theorem accept_eq_error_iff (hfits : set.Fits) {fault : Fault} {r' : Reception} :
    accept set offset r frame = (.error fault, r') ↔
      FirstFailure set offset r frame fault ∧ r' = r := by
  constructor
  · intro h
    obtain ⟨hexamine, rfl⟩ := accept_eq_error h
    exact ⟨(examine_eq_error_iff hfits).1 hexamine, rfl⟩
  · rintro ⟨hfailure, rfl⟩
    rw [accept, examine_of_firstFailure hfits hfailure]

/-- A frame is verified exactly if it is the one expected for a level that is still missing; otherwise the
first check that it fails names the fault, and the reception stays as it was. -/
theorem accept_exact (set : TestSet) (hfits : set.Fits) (offset : UInt8) (r : Reception)
    (frame : Bytes) :
    (∀ v r', accept set offset r frame = (.ok v, r') ↔
      ∃ index, Expected set offset r frame index ∧ v = ⟨offset + index, index⟩ ∧
        r' = ⟨r.observed.insert index, r.received + 1, r.arrival ++ [index]⟩) ∧
    (∀ fault r', accept set offset r frame = (.error fault, r') ↔
      FirstFailure set offset r frame fault ∧ r' = r) ∧
    (∀ byte, offset ≤ byte ∧ byte ≤ lastLevel set offset ↔
      ∃ index, levelIndex? set offset byte = some index) ∧
    (∀ byte index, levelIndex? set offset byte = some index →
      byte.toNat = offset.toNat + index.toNat ∧ index.toNat < set.sums.length ∧
        ∃ expected, set.expectedFrame byte index.toNat = .ok expected ∧
          expected.length = set.frameLength) ∧
    ∀ fault r', accept set offset r frame = (.error fault, r') → fault.faultClass ≠ .malformed := by
  refine ⟨fun _ _ => accept_eq_ok_iff hfits, fun _ _ => accept_eq_error_iff hfits,
    fun _ => le_lastLevel_iff, ?_, ?_⟩
  · intro byte index h
    obtain ⟨hbyte, hlt⟩ := levelIndex?_eq_some_iff.1 h
    refine ⟨hbyte, set.length_sums.symm ▸ hlt, _, TestSet.expectedFrame_eq hlt, ?_⟩
    exact TestSet.length_toBytes hfits (TestSet.length_getD_sums hlt)
  · intro fault r' h
    exact ((accept_eq_error_iff hfits).1 h).1.ne_malformed

/-- The last level byte belongs to a level, in a set one level of which has no byte left. -/
theorem accept_exact_pastTheTop :
    let set := prepared atTheTop 0 (.ofSeed 7)
    set.Fits ∧
      accept set 254 {} (set.owed 254 1) = (.ok ⟨255, 1⟩, ⟨LevelSet.empty.insert 1, 1, [1]⟩) ∧
      (∃ fault, accept set 255 {} [] = (.error fault, {}) ∧ fault.faultClass = .transport) ∧
      lastLevel set 255 = 255 ∧ ∃ index, levelIndex? set 255 255 = some index := by
  have hfits : (prepared atTheTop 0 (.ofSeed 7)).Fits := by
    change 8 + 4 * 1 < 2 ^ 64
    decide
  have hcount : (prepared atTheTop 0 (.ofSeed 7)).levelCount = 2 := levelCount_prepared ..
  refine ⟨hfits, ?_, ?_, ?_, ?_⟩
  · refine ((accept_exact _ hfits 254 {} _).1 _ _).2 ⟨1, expected_iff.2 ⟨?_, ?_, ?_, rfl⟩, rfl, rfl⟩
    · rw [hcount]
      decide
    · decide
    · decide
  · exact ⟨_, ((accept_exact _ hfits 255 {} []).2.1 _ _).2 ⟨.empty rfl, rfl⟩, rfl⟩
  · rw [lastLevel, hcount]
    decide
  · refine ((accept_exact _ hfits 255 {} []).2.2.1 255).1 ⟨by decide, ?_⟩
    rw [lastLevel, hcount]
    decide

end OffloadBench.Round
