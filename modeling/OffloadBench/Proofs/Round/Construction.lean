import OffloadBench.Proofs.Run.Sets

/-! # Construction of test sets

A test set comes from parts that are checked, or from settings, an index and a generator. On the way
from the settings every step has checks as well: draws refuse the bound zero, exchanges refuse
positions that are not there, the parts are checked like any others, and running sums refuse payloads
of different lengths. None of these checks ever fails, because what a shuffle gives is an order and an
order is what the check of it accepts.

What can be lacking is room. A buffer has no more than 2 ^ 63 - 1 bytes, so an order is of fewer than
2 ^ 60 places, a payload of fewer than 2 ^ 61 words, and a frame, which has eight bytes more than its
payload, of fewer than 2 ^ 61 - 2 words. Below these bounds everything is made, and from them on nothing.
-/
namespace OffloadBench.Buffer

theorem fits_bytes_iff {n : Nat} : Fits byteWidth n ↔ n < 2 ^ 63 := by
  rw [Fits, byteWidth, limit]
  omega

theorem fits_words_iff {n : Nat} : Fits wordWidth n ↔ n < 2 ^ 61 := by
  rw [Fits, wordWidth, limit]
  omega

theorem fits_indices_iff {n : Nat} : Fits indexWidth n ↔ n < 2 ^ 60 := by
  rw [Fits, indexWidth, limit]
  omega

theorem fits_payloads {n : Nat} (h : n ≤ 256) : Fits payloadWidth n := by
  rw [Fits, payloadWidth, limit]
  omega

end OffloadBench.Buffer

namespace OffloadBench.Draw

theorem isOrder_iff {order : List Nat} :
    isOrder order = true ↔ order.Perm (List.range order.length) := by
  refine ⟨perm_of_isOrder, fun hperm => (marksEach_iff _ _).2 ⟨?_, fun i hi => ?_⟩⟩
  · exact hperm.nodup_iff.2 List.nodup_range
  · have hlt : i < order.length := List.mem_range.1 (hperm.mem_iff.1 hi)
    simp [hlt]

section Checked
variable {α : Type _}

theorem exchange?_of_lt {items : Array α} {i j : Nat} (hi : i < items.size) (hj : j < items.size) :
    exchange? items i j = .ok (items.swapIfInBounds i j) := by
  rw [exchange?, dif_pos hi, dif_pos hj, Array.swapIfInBounds_def, dif_pos hi, dif_pos hj]

namespace Generator

/-- The draws are in range, so no check fails and nothing is exchanged differently. -/
theorem exchanges?_eq (g : Generator) {i : Nat} {items : Array α} (hi : i ≤ items.size - 1) :
    g.exchanges? i items = .ok (arrange i (g.drawIndices i).1 items, (g.drawIndices i).2) := by
  induction i generalizing g items with
  | zero => simp [exchanges?, arrange, drawIndices]
  | succ i ih =>
    have hdraw : g.below? (i + 2) = .ok (g.below (i + 2)) := if_neg (Nat.succ_ne_zero _)
    have hlt : (g.below (i + 2)).1 < i + 2 := Nat.mod_lt _ (Nat.succ_pos _)
    have hexchange : exchange? items (i + 1) (g.below (i + 2)).1 =
        .ok (items.swapIfInBounds (i + 1) (g.below (i + 2)).1) :=
      exchange?_of_lt (by omega) (by omega)
    have hrest : i ≤ (items.swapIfInBounds (i + 1) (g.below (i + 2)).1).size - 1 := by
      rw [Array.size_swapIfInBounds]
      omega
    simp only [exchanges?, hdraw, hexchange]
    exact ih _ hrest

theorem shuffle?_eq (g : Generator) (items : List α) : g.shuffle? items = .ok (g.shuffle items) := by
  have hexchanges := g.exchanges?_eq (Nat.le_refl (items.toArray.size - 1))
  rw [List.size_toArray] at hexchanges
  rw [shuffle?, hexchanges]
  rfl

theorem order?_of_lt (g : Generator) {n : Nat} (h : n < 2 ^ 60) :
    g.order? n = .ok (g.order n) := by
  rw [order?, if_pos (Buffer.fits_indices_iff.2 h), shuffle?_eq]
  rfl

theorem order?_of_ge (g : Generator) {n : Nat} (h : 2 ^ 60 ≤ n) :
    g.order? n = .error (.capacity .overflow) :=
  if_neg (mt Buffer.fits_indices_iff.1 (Nat.not_lt.2 h))

end Generator

end Checked

end OffloadBench.Draw

namespace OffloadBench.Round
open Config Draw Stimulus Wire

structure PartsFit (packet : PacketSettings) (inputs : List Payload) (order : List Nat) : Prop where
  count : inputs.length = packet.maxLevel.toNat + 1
  lengths : ∀ p ∈ inputs, p.length = packet.elementCount.toNat
  order : order.Perm (List.range (packet.maxLevel.toNat + 1))

namespace TestSet

variable {index : UInt32} {packet : PacketSettings} {inputs : List Payload} {order : List Nat}

theorem runningSums_eq (set : TestSet) : runningSums set.inputs = .ok set.sums :=
  runningSums_eq_ok_iff.2 set.runningSums_inputs

theorem partsFit (set : TestSet) : PartsFit set.packet set.inputs set.order := by
  have hperm := set.order_perm
  rw [set.length_inputs] at hperm
  exact ⟨set.length_inputs, set.length_of_mem, hperm⟩

/-- The parts of a test set make this test set. -/
theorem ofParts_self (set : TestSet) :
    ofParts set.index set.packet set.inputs set.order = .ok set := by
  obtain ⟨index, packet, inputs, order, sums, hcount, hlengths, hperm, hsums⟩ := set
  have horder : order.length = inputs.length ∧ isOrder order = true := by
    have hlength : order.length = inputs.length := by rw [hperm.length_eq, List.length_range]
    exact ⟨hlength, isOrder_iff.2 (hlength ▸ hperm)⟩
  obtain rfl : sumsOf inputs hlengths = sums := Option.some.inj ((Option.some_get _).trans hsums)
  dsimp only
  rw [ofParts, dif_pos hcount, dif_pos hlengths, dif_pos horder]

/-- Parts that fit make a test set. -/
theorem ofParts_of_partsFit (index : UInt32) (h : PartsFit packet inputs order) :
    ∃ set, ofParts index packet inputs order = .ok set ∧ set.index = index ∧ set.packet = packet ∧
      set.inputs = inputs ∧ set.order = order :=
  let set : TestSet :=
    { index, packet, inputs, order
      sums := sumsOf inputs h.lengths
      length_inputs := h.count
      length_of_mem := h.lengths
      order_perm := h.count ▸ h.order
      runningSums_inputs := (Option.some_get _).symm }
  ⟨set, set.ofParts_self, rfl, rfl, rfl, rfl⟩

theorem parts_of_ofParts {set : TestSet} (h : ofParts index packet inputs order = .ok set) :
    set.index = index ∧ set.packet = packet ∧ set.inputs = inputs ∧ set.order = order := by
  unfold ofParts at h
  split at h
  · split at h
    · split at h
      · cases h
        exact ⟨rfl, rfl, rfl, rfl⟩
      · cases h
    · cases h
  · cases h

theorem ofParts_eq_error_iff :
    (∃ e, ofParts index packet inputs order = .error e) ↔ ¬ PartsFit packet inputs order := by
  constructor
  · rintro ⟨e, he⟩ hfit
    obtain ⟨set, hset, -⟩ := ofParts_of_partsFit index hfit
    rw [hset] at he
    cases he
  · intro hfit
    cases hparts : ofParts index packet inputs order with
    | error e => exact ⟨e, rfl⟩
    | ok set =>
      obtain ⟨-, rfl, rfl, rfl⟩ := parts_of_ofParts hparts
      exact absurd set.partsFit hfit

/-- The stimuli of settings find room for their levels, of which there are 256 at most, and for the
words of each. -/
theorem stimuli?_of_lt (index : UInt32) (h : packet.elementCount.toNat < 2 ^ 61) :
    Stimulus.stimuli? index (UInt64.ofNat packet.levelCount) packet.elementCount =
      .ok (Stimulus.stimuli index (UInt64.ofNat packet.levelCount) packet.elementCount) := by
  have hlevels : Buffer.Fits Buffer.payloadWidth (UInt64.ofNat packet.levelCount).toNat := by
    rw [toNat_levelCount]
    exact Buffer.fits_payloads packet.levelCount_le
  exact if_pos ⟨hlevels, .inr (Buffer.fits_words_iff.2 h)⟩

theorem stimuli?_of_ge (index : UInt32) (h : 2 ^ 61 ≤ packet.elementCount.toNat) :
    Stimulus.stimuli? index (UInt64.ofNat packet.levelCount) packet.elementCount =
      .error .overflow := by
  refine if_neg ?_
  rintro ⟨-, hnone | hwords⟩
  · have hcount := congrArg UInt64.toNat hnone
    rw [toNat_levelCount] at hcount
    exact absurd hcount packet.levelCount_pos.ne'
  · exact absurd (Buffer.fits_words_iff.1 hwords) (Nat.not_lt.2 h)

theorem prepare?_of_lt (index : UInt32) (g : Generator)
    (h : packet.elementCount.toNat < 2 ^ 61) :
    prepare? index packet g = .ok (prepare index packet g) := by
  have horder : g.order? packet.levelCount = .ok (g.order packet.levelCount) :=
    g.order?_of_lt (Nat.lt_of_le_of_lt packet.levelCount_le (by decide))
  have hparts := (prepare index packet g).1.ofParts_self
  have hsums := (prepare index packet g).1.runningSums_eq
  change ofParts index packet
    (Stimulus.stimuli index (UInt64.ofNat packet.levelCount) packet.elementCount)
    (g.order packet.levelCount).1 = _ at hparts
  change runningSums (Stimulus.stimuli index (UInt64.ofNat packet.levelCount) packet.elementCount) = _
    at hsums
  simp only [prepare?, stimuli?_of_lt index h, horder, hparts, hsums]
  rfl

theorem prepare?_of_ge (index : UInt32) (g : Generator)
    (h : 2 ^ 61 ≤ packet.elementCount.toNat) :
    prepare? index packet g = .error (.stimuli .overflow) := by
  rw [prepare?, stimuli?_of_ge index h]

variable {set : TestSet}

theorem getElem?_inputs {l : Nat} (hl : l < set.levelCount) :
    set.inputs[l]? = some (set.inputs.getD l []) := by
  rw [List.getD_eq_getElem _ _ hl, List.getElem?_eq_getElem hl]

theorem getElem?_sums {l : Nat} (hl : l < set.levelCount) :
    set.sums[l]? = some (set.sums.getD l []) := by
  have hsum : l < set.sums.length := set.length_sums ▸ hl
  rw [List.getD_eq_getElem _ _ hsum, List.getElem?_eq_getElem hsum]

theorem frameLength_of_lt (h : set.packet.elementCount.toNat < 2 ^ 61) :
    set.frameLength = 8 + 4 * set.packet.elementCount.toNat := by
  apply frameLength_eq
  rw [Fits]
  omega

section Frames
variable {m : Metadata} {payloads : List Payload} {l : Nat} {payload : Payload}
variable (hpayload : payloads[l]? = some payload)
include hpayload

/-- A payload of the set's length finds room for its frame, if the frame is no longer than a buffer. -/
theorem frame?_of_lt (hlength : payload.length = set.packet.elementCount.toNat)
    (hroom : set.packet.elementCount.toNat < 2 ^ 61 - 2) :
    set.frame? m payloads l = .ok (Packet.toBytes ⟨m, payload⟩) := by
  have hfits : Buffer.Fits Buffer.byteWidth set.frameLength := by
    rw [Buffer.fits_bytes_iff, frameLength_of_lt (by omega)]
    omega
  have hencode : set.layout.encode m payload = _ := Layout.encode_of_length hlength
  rw [frame?, hpayload]
  dsimp only
  rw [if_pos hfits, hencode]
  rfl

theorem frame?_of_ge (hroom : 2 ^ 61 - 2 ≤ set.packet.elementCount.toNat)
    (hmemory : set.packet.elementCount.toNat < 2 ^ 61) :
    set.frame? m payloads l = .error (.capacity .overflow) := by
  have hlong : ¬ Buffer.Fits Buffer.byteWidth set.frameLength := by
    rw [Buffer.fits_bytes_iff, frameLength_of_lt (by omega)]
    omega
  rw [frame?, hpayload]
  exact if_neg hlong

end Frames

/-- What is recognised as an order is one, what is drawn is one if there is room for it, and a test set is
made exactly of parts that fit. Room is all that the preparation of a set, or a frame of it, can lack. -/
theorem prepare_wellFormed :
    (∀ order : List Nat, isOrder order = true ↔ order.Perm (List.range order.length)) ∧
    (∀ (g : Generator) (n : Nat),
      g.shuffle? (List.range n) = .ok (g.order n) ∧ (g.order n).1.Perm (List.range n) ∧
      (n < 2 ^ 60 → g.order? n = .ok (g.order n)) ∧
      (2 ^ 60 ≤ n → g.order? n = .error (.capacity .overflow))) ∧
    (∀ (index : UInt32) (packet : PacketSettings) (g : Generator),
      (packet.elementCount.toNat < 2 ^ 61 →
        prepare? index packet g = .ok (prepare index packet g)) ∧
      (2 ^ 61 ≤ packet.elementCount.toNat →
        prepare? index packet g = .error (.stimuli .overflow))) ∧
    (∀ (index : UInt32) (packet : PacketSettings) (inputs : List Payload) (order : List Nat),
      ((∃ e, ofParts index packet inputs order = .error e) ↔ ¬ PartsFit packet inputs order) ∧
      ∀ set, ofParts index packet inputs order = .ok set →
        set.index = index ∧ set.packet = packet ∧ set.inputs = inputs ∧ set.order = order ∧
          runningSums inputs = .ok set.sums) ∧
    ∀ set : TestSet, ofParts set.index set.packet set.inputs set.order = .ok set ∧
      (set.packet.elementCount.toNat < 2 ^ 61 - 2 →
        (∀ l ∈ set.order, ∃ input, set.inputs[l]? = some input ∧
          set.stimulusFrame? l = .ok (Packet.toBytes ⟨set.metadata (levelByte l), input⟩)) ∧
        ∀ (reported : UInt8) (l : Nat), l < set.levelCount → ∃ sum, set.sums[l]? = some sum ∧
          set.expectedFrame? reported l = .ok (Packet.toBytes ⟨set.metadata reported, sum⟩)) ∧
      (2 ^ 61 - 2 ≤ set.packet.elementCount.toNat → set.packet.elementCount.toNat < 2 ^ 61 →
        (∀ l ∈ set.order, set.stimulusFrame? l = .error (.capacity .overflow)) ∧
        ∀ (reported : UInt8) (l : Nat), l < set.levelCount →
          set.expectedFrame? reported l = .error (.capacity .overflow)) := by
  refine ⟨fun _ => isOrder_iff, fun g n => ⟨g.shuffle?_eq _, g.order_perm n, g.order?_of_lt,
    g.order?_of_ge⟩, fun index packet g => ⟨prepare?_of_lt index g, prepare?_of_ge index g⟩, ?_, ?_⟩
  · intro index packet inputs order
    refine ⟨ofParts_eq_error_iff, fun set h => ?_⟩
    obtain ⟨hindex, hpacket, hinputs, horder⟩ := parts_of_ofParts h
    exact ⟨hindex, hpacket, hinputs, horder, hinputs ▸ set.runningSums_eq⟩
  · intro set
    refine ⟨set.ofParts_self, fun hroom => ⟨fun l hl => ?_, fun reported l hl => ?_⟩,
      fun hroom hmemory => ⟨fun l hl => ?_, fun reported l hl => ?_⟩⟩
    · have hlt := lt_of_mem_order hl
      exact ⟨_, getElem?_inputs hlt, frame?_of_lt (getElem?_inputs hlt) (length_stimulus hlt) hroom⟩
    · exact ⟨_, getElem?_sums hl, frame?_of_lt (getElem?_sums hl) (length_getD_sums hl) hroom⟩
    · exact frame?_of_ge (getElem?_inputs (lt_of_mem_order hl)) hroom hmemory
    · exact frame?_of_ge (getElem?_sums hl) hroom hmemory

/-- Two levels of one element, in an order and in a list that is none. -/
theorem prepare_wellFormed_twoLevels :
    let packet : PacketSettings := { elementCount := 1, maxLevel := 1 }
    let inputs : List Payload := [[10], [20]]
    packet.elementCount.toNat < 2 ^ 61 - 2 ∧
    (∃ order g, (Generator.ofSeed 1).order? 2 = .ok (order, g) ∧ order.Perm [0, 1]) ∧
    (∃ prepared, prepare? 0 packet (.ofSeed 1) = .ok prepared) ∧
    (∃ set, ofParts 0 packet inputs [1, 0] = .ok set ∧ runningSums inputs = .ok set.sums ∧
      (∃ frame, 1 ∈ set.order ∧ set.stimulusFrame? 1 = .ok frame) ∧
      ∃ frame, 1 < set.levelCount ∧ set.expectedFrame? 2 1 = .ok frame) ∧
    ∃ e, ofParts 0 packet inputs [1, 1] = .error e := by
  intro packet inputs
  obtain ⟨-, horders, hprepare, hparts, hframes⟩ := prepare_wellFormed
  obtain ⟨-, hperm, hdrawn, -⟩ := horders (.ofSeed 1) 2
  have hfit : PartsFit packet inputs [1, 0] := ⟨rfl, by decide, by decide⟩
  obtain ⟨set, hset, -⟩ := ofParts_of_partsFit 0 hfit
  obtain ⟨-, hpacket, hinputs, horder, hsums⟩ := (hparts 0 packet inputs [1, 0]).2 set hset
  have hmem : 1 ∈ set.order := by rw [horder]; decide
  have hlt : 1 < set.levelCount := by rw [levelCount, hinputs]; decide
  have hroom : set.packet.elementCount.toNat < 2 ^ 61 - 2 := by rw [hpacket]; decide
  obtain ⟨hstimuli, hexpected⟩ := (hframes set).2.1 hroom
  obtain ⟨_, -, hstimulus⟩ := hstimuli 1 hmem
  obtain ⟨_, -, howed⟩ := hexpected 2 1 hlt
  refine ⟨by decide, ⟨_, _, hdrawn (by decide), hperm⟩, ⟨_, (hprepare 0 packet _).1 (by decide)⟩,
    ⟨set, hset, hsums, ⟨_, hmem, hstimulus⟩, _, hlt, howed⟩, ?_⟩
  refine (hparts 0 packet inputs [1, 1]).1.2 fun hfit => ?_
  exact absurd hfit.order (by decide)

/-- Settings for payloads, an order and a frame of a set that no buffer has room for. -/
theorem prepare_lacksRoom :
    prepare? 0 { elementCount := 0xFFFFFFFFFFFFFFFF, maxLevel := 0 } (.ofSeed 1) =
      .error (.stimuli .overflow) ∧
    (Generator.ofSeed 1).order? (2 ^ 60) = .error (.capacity .overflow) ∧
    ∃ set, ofParts 0 { elementCount := 0x1FFFFFFFFFFFFFFF, maxLevel := 0 }
        [List.replicate (2 ^ 61 - 1) 0] [0] = .ok set ∧
      set.stimulusFrame? 0 = .error (.capacity .overflow) := by
  refine ⟨prepare?_of_ge 0 _ (by decide), (Generator.ofSeed 1).order?_of_ge (by decide), ?_⟩
  have hfit : PartsFit { elementCount := 0x1FFFFFFFFFFFFFFF, maxLevel := 0 }
      [List.replicate (2 ^ 61 - 1) 0] [0] := by
    refine ⟨rfl, fun p hp => ?_, by decide⟩
    rw [List.mem_singleton.1 hp, List.length_replicate]
    rfl
  obtain ⟨set, hset, -, hpacket, hinputs, -⟩ := ofParts_of_partsFit 0 hfit
  have hinput : set.inputs[0]? = some (List.replicate (2 ^ 61 - 1) 0) := by rw [hinputs]; rfl
  refine ⟨set, hset, frame?_of_ge hinput ?_ ?_⟩
  · rw [hpacket]
    decide
  · rw [hpacket]
    decide

end TestSet

end OffloadBench.Round
