import OffloadBench.Proofs.Stimulus.PrefixSum
import OffloadBench.Proofs.Wire.Exactness
import OffloadBench.Round.Reception

/-! # Acceptance of one frame

A frame is verified if and only if it is, byte for byte, the frame owed for a level that is not yet
verified. Every other frame is refused, and the first check that fails names the fault.
-/
namespace OffloadBench.Round
open Stimulus Wire

namespace TestSet

/-- The frames of the set are short enough for their length not to wrap. -/
def Fits (set : TestSet) : Prop := 8 + 4 * set.packet.elementCount.toNat < 2 ^ 64

def owed (set : TestSet) (offset index : UInt8) : Bytes :=
  Packet.toBytes ⟨set.metadata (offset + index), set.sums.getD index.toNat []⟩

variable {set : TestSet}

theorem frameLength_eq (h : set.Fits) :
    set.frameLength = 8 + 4 * set.packet.elementCount.toNat :=
  set.layout.toNat_frameLength h

theorem frameLength_pos (h : set.Fits) : 0 < set.frameLength := by
  rw [frameLength_eq h]
  omega

theorem length_sums (set : TestSet) : set.sums.length = set.levelCount :=
  (runningSums?_spec set.length_of_mem set.runningSums_inputs).1

theorem length_of_mem_sums {p : Payload} (h : p ∈ set.sums) :
    p.length = set.packet.elementCount.toNat :=
  (runningSums?_spec set.length_of_mem set.runningSums_inputs).2.1 p h

theorem length_getD_sums {i : Nat} (hi : i < set.levelCount) :
    (set.sums.getD i []).length = set.packet.elementCount.toNat :=
  length_getD (fun _ => length_of_mem_sums) (set.length_sums ▸ hi)

theorem levelCount_eq (set : TestSet) : set.levelCount = set.packet.levelCount := set.length_inputs

theorem levelCount_le (set : TestSet) : set.levelCount ≤ 256 := by
  have := set.packet.maxLevel.toNat_lt
  rw [levelCount_eq, Config.PacketSettings.levelCount]
  omega

theorem length_toBytes (hfits : set.Fits) {m : Metadata} {payload : Payload}
    (h : payload.length = set.packet.elementCount.toNat) :
    (Packet.toBytes ⟨m, payload⟩).length = set.frameLength := by
  rw [Packet.length_toBytes, frameLength_eq hfits, h]

theorem length_owed (hfits : set.Fits) (offset : UInt8) {index : UInt8}
    (hi : index.toNat < set.levelCount) : (set.owed offset index).length = set.frameLength :=
  length_toBytes hfits (length_getD_sums hi)

theorem level_owed (set : TestSet) (offset index : UInt8) :
    (set.owed offset index).getD 7 0 = offset + index := by
  rw [owed, ← level_ofBytes, Packet.ofBytes_toBytes]
  rfl

theorem payloadOf_owed (set : TestSet) (offset index : UInt8) :
    payloadOf ((set.owed offset index).drop 8) = set.sums.getD index.toNat [] :=
  Packet.payloadOf_drop_toBytes _

theorem expectedFrame_eq {reported : UInt8} {i : Nat} (hi : i < set.levelCount) :
    set.expectedFrame reported i =
      .ok (Packet.toBytes ⟨set.metadata reported, set.sums.getD i []⟩) :=
  Layout.encode_of_length (length_getD_sums hi)

end TestSet

variable {set : TestSet} {offset : UInt8} {r : Reception} {frame : Bytes}

theorem levelIndex?_eq_some_iff {reported index : UInt8} :
    levelIndex? set offset reported = some index ↔
      reported.toNat = offset.toNat + index.toNat ∧ index.toNat < set.levelCount := by
  unfold levelIndex?
  constructor
  · intro h
    split at h
    · rename_i hin
      cases h
      have hle := UInt8.le_iff_toNat_le.1 hin.1
      rw [UInt8.toNat_sub_of_le _ _ hin.1]
      exact ⟨by omega, hin.2⟩
    · cases h
  · rintro ⟨hreported, hindex⟩
    have hle : offset ≤ reported := UInt8.le_iff_toNat_le.2 (by omega)
    rw [if_pos ⟨hle, by omega⟩]
    congr 1
    apply UInt8.toNat_inj.1
    rw [UInt8.toNat_sub_of_le _ _ hle]
    omega

theorem levelIndex?_eq_none_iff {reported : UInt8} :
    levelIndex? set offset reported = none ↔
      ¬ (offset.toNat ≤ reported.toNat ∧
        reported.toNat ≤ offset.toNat + set.packet.maxLevel.toNat) := by
  have hcount := set.levelCount_eq
  rw [Config.PacketSettings.levelCount] at hcount
  rw [levelIndex?, ite_eq_right_iff, UInt8.le_iff_toNat_le]
  constructor
  · intro h hin
    exact absurd (h ⟨hin.1, by omega⟩) (Option.some_ne_none _)
  · intro h hin
    exact absurd ⟨hin.1, by omega⟩ h

theorem levelIndex?_add {index : UInt8} (hi : index.toNat < set.levelCount)
    (hlevel : offset.toNat + index.toNat ≤ 255) :
    levelIndex? set offset (offset + index) = some index := by
  rw [levelIndex?_eq_some_iff, UInt8.toNat_add]
  omega

/-- The byte that a level is reported with. -/
theorem eq_add_of_levelIndex? {reported index : UInt8}
    (h : levelIndex? set offset reported = some index) :
    reported = offset + index ∧ offset.toNat + index.toNat ≤ 255 ∧
      index.toNat < set.levelCount := by
  obtain ⟨hreported, hindex⟩ := levelIndex?_eq_some_iff.1 h
  have hbyte := reported.toNat_lt
  refine ⟨?_, by omega, hindex⟩
  apply UInt8.toNat_inj.1
  rw [UInt8.toNat_add]
  omega

theorem compareFrame_eq {reported index : UInt8} (hi : index.toNat < set.levelCount) :
    compareFrame set reported index frame =
      match firstMismatch
          (Packet.toBytes ⟨set.metadata reported, set.sums.getD index.toNat []⟩) frame with
      | some mismatch => .error (.dataMismatch set.index reported mismatch)
      | none => .ok ⟨reported, index⟩ := by
  have hexpected := @TestSet.expectedFrame_eq set reported _ hi
  unfold compareFrame
  split
  · rename_i e herror
    rw [hexpected] at herror
    cases herror
  · rename_i expected hok
    rw [hexpected] at hok
    cases hok
    rfl

theorem examine_of_length (hpos : 0 < set.frameLength) (hlength : frame.length = set.frameLength) :
    examine set offset r frame =
      match levelIndex? set offset (frame.getD 7 0) with
      | none => .error (.unknownLevel set.index (frame.getD 7 0) offset (lastLevel set offset))
      | some index =>
        if r.observed.contains index then .error (.duplicateResponse set.index (frame.getD 7 0))
        else compareFrame set (frame.getD 7 0) index frame := by
  have hne : ¬ frame.isEmpty = true := by
    rw [List.isEmpty_iff_length_eq_zero]
    omega
  have hdecode : set.layout.decode frame = _ := Layout.decode_of_length hlength
  rw [examine, if_neg hne, if_neg (not_not_intro hlength), hdecode]
  rfl

theorem examine_nil :
    examine set offset r [] =
      .error (.transport set.index .receiving "receive returned a non-positive length" none) := rfl

theorem examine_of_length_ne (hne : frame ≠ []) (hlength : frame.length ≠ set.frameLength) :
    examine set offset r frame = .error (.length set.index set.frameLength frame.length) := by
  have hfull : ¬ frame.isEmpty = true := by rwa [List.isEmpty_iff]
  rw [examine, if_neg hfull, if_pos hlength]

/-- The frame owed for a level not yet verified is verified. -/
theorem examine_owed (hfits : set.Fits) {index : UInt8} (hi : index.toNat < set.levelCount)
    (hlevel : offset.toNat + index.toNat ≤ 255) (hfresh : r.observed.contains index = false) :
    examine set offset r (set.owed offset index) = .ok ⟨offset + index, index⟩ := by
  rw [examine_of_length (TestSet.frameLength_pos hfits) (TestSet.length_owed hfits offset hi),
    TestSet.level_owed, levelIndex?_add hi hlevel]
  dsimp only
  rw [hfresh, if_neg Bool.false_ne_true, compareFrame_eq hi]
  change (match firstMismatch (set.owed offset index) (set.owed offset index) with
    | some mismatch => _
    | none => _) = _
  rw [(firstMismatch_eq_none rfl).2 rfl]

theorem examine_owed_observed (hfits : set.Fits) {index : UInt8}
    (hi : index.toNat < set.levelCount) (hlevel : offset.toNat + index.toNat ≤ 255)
    (hobserved : r.observed.contains index = true) :
    examine set offset r (set.owed offset index) =
      .error (.duplicateResponse set.index (offset + index)) := by
  rw [examine_of_length (TestSet.frameLength_pos hfits) (TestSet.length_owed hfits offset hi),
    TestSet.level_owed, levelIndex?_add hi hlevel]
  dsimp only
  rw [if_pos hobserved]

/-- Only owed frames are verified. -/
theorem owed_of_examine_ok (hfits : set.Fits) {v : Verified}
    (h : examine set offset r frame = .ok v) :
    ∃ index : UInt8, index.toNat < set.levelCount ∧ offset.toNat + index.toNat ≤ 255 ∧
      r.observed.contains index = false ∧ frame = set.owed offset index ∧
      v = ⟨offset + index, index⟩ := by
  by_cases hnil : frame = []
  · rw [hnil, examine_nil] at h
    cases h
  by_cases hlength : frame.length = set.frameLength
  · rw [examine_of_length (TestSet.frameLength_pos hfits) hlength] at h
    cases hindex : levelIndex? set offset (frame.getD 7 0) with
    | none =>
      rw [hindex] at h
      cases h
    | some index =>
      obtain ⟨hlevel, hle, hi⟩ := eq_add_of_levelIndex? hindex
      rw [hindex, hlevel] at h
      dsimp only at h
      split at h
      · cases h
      · rename_i hfresh
        rw [compareFrame_eq hi] at h
        split at h
        · cases h
        · rename_i hnone
          cases h
          refine ⟨index, hi, hle, by simpa using hfresh, ?_, rfl⟩
          exact ((firstMismatch_eq_none
            ((TestSet.length_owed hfits offset hi).trans hlength.symm)).1 hnone).symm
  · rw [examine_of_length_ne hnil hlength] at h
    cases h

/-- A frame that carries the level byte of a level not yet verified is compared with the frame owed
for that level. -/
theorem examine_of_level (hfits : set.Fits) {index : UInt8} (hi : index.toNat < set.levelCount)
    (hlevel : offset.toNat + index.toNat ≤ 255) (hfresh : r.observed.contains index = false)
    (hlength : frame.length = set.frameLength) (hbyte : frame.getD 7 0 = offset + index)
    {mismatch : Mismatch} (h : firstMismatch (set.owed offset index) frame = some mismatch) :
    examine set offset r frame = .error (.dataMismatch set.index (offset + index) mismatch) := by
  rw [examine_of_length (TestSet.frameLength_pos hfits) hlength, hbyte, levelIndex?_add hi hlevel]
  dsimp only
  rw [hfresh, if_neg Bool.false_ne_true, compareFrame_eq hi]
  change (match firstMismatch (set.owed offset index) frame with
    | some mismatch => _
    | none => _) = _
  rw [h]

/-- A frame of the right length that is owed for no level is refused for its level, as a duplicate
or for its data. -/
theorem examine_of_not_owed (offset : UInt8) (r : Reception) (hfits : set.Fits)
    (hlength : frame.length = set.frameLength)
    (hne : ∀ index : UInt8, index.toNat < set.levelCount → frame ≠ set.owed offset index) :
    ∃ fault, examine set offset r frame = .error fault ∧ fault.testSet? = some set.index ∧
      fault.phase = .receiving ∧ (fault.faultClass = .unknownLevel ∨
        fault.faultClass = .duplicate ∨ fault.faultClass = .dataMismatch) := by
  have hexamine : examine set offset r frame = _ :=
    examine_of_length (TestSet.frameLength_pos hfits) hlength
  cases h : examine set offset r frame with
  | ok v =>
    obtain ⟨index, hi, -, -, howed, -⟩ := owed_of_examine_ok hfits h
    exact absurd howed (hne index hi)
  | error fault =>
    rw [h] at hexamine
    refine ⟨fault, rfl, ?_⟩
    cases hindex : levelIndex? set offset (frame.getD 7 0) with
    | none =>
      rw [hindex] at hexamine
      cases hexamine
      exact ⟨rfl, rfl, .inl rfl⟩
    | some index =>
      rw [hindex] at hexamine
      dsimp only at hexamine
      split at hexamine
      · cases hexamine
        exact ⟨rfl, rfl, .inr (.inl rfl)⟩
      · rw [compareFrame_eq (levelIndex?_eq_some_iff.1 hindex).2] at hexamine
        split at hexamine
        · cases hexamine
          exact ⟨rfl, rfl, .inr (.inr rfl)⟩
        · cases hexamine

end OffloadBench.Round
