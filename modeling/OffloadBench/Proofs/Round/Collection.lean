import OffloadBench.Proofs.Round.Arrival
import OffloadBench.Round.Conduct

/-! # Collection of responses

The receiving phase reads on as long as every frame is owed for a new level, stops with the first
that is not, and ends once every level has come. Nothing is assumed of the transport but what its
next waits bring.
-/
namespace OffloadBench.Round
open Device Wire

variable {σ : Type}

structure TestSet.WellPosed (set : TestSet) (offset : UInt8) : Prop where
  fits : set.Fits
  levels_le : set.packet.maxLevel.toNat + offset.toNat ≤ 255

theorem TestSet.WellPosed.add_le {set : TestSet} {offset : UInt8} (h : set.WellPosed offset)
    {i : UInt8} (hi : i.toNat < set.levelCount) : offset.toNat + i.toNat ≤ 255 := by
  have hle := h.levels_le
  rw [set.levelCount_eq, Config.PacketSettings.levelCount] at hi
  omega

/-- Successive waits that bring the given frames, each as far as the buffer holds it. -/
inductive Delivers (t : Transport σ) (capacity : Nat) (timeout : Option UInt64) :
    σ → List Bytes → σ → Prop
  | nil (s : σ) : Delivers t capacity timeout s [] s
  | cons {s mid final : σ} {frame : Bytes} {rest : List Bytes} :
      t.receive capacity timeout s = (.ok (.copy frame capacity), mid) →
      Delivers t capacity timeout mid rest final →
      Delivers t capacity timeout s (frame :: rest) final

theorem frame?_copy (frame : Bytes) (capacity : Nat) :
    (Delivery.copy frame capacity).frame? capacity = some (frame.take capacity) := by
  have hle : min frame.length capacity ≤ capacity := Nat.min_le_right _ _
  rw [Delivery.frame?, Delivery.copy, if_pos hle, List.length_take, Nat.min_comm, Nat.sub_self,
    List.take_take]
  simp

variable {t : Transport σ} {set : TestSet} {offset : UInt8} {timeout : Option UInt64}
variable {r : Reception} {s s' : σ}

theorem awaited_copy (frame : Bytes) :
    awaited set r (.ok (.copy frame (bufferCapacity set))) =
      .ok (frame.take (bufferCapacity set)) := by
  rw [awaited, frame?_copy]

theorem awaited_copy_of_le {frame : Bytes} (h : frame.length ≤ set.frameLength) :
    awaited set r (.ok (.copy frame (bufferCapacity set))) = .ok frame := by
  rw [awaited_copy, List.take_of_length_le]
  unfold bufferCapacity
  omega

theorem length_owed_le_capacity (hfits : set.Fits) (offset : UInt8) {is : List UInt8}
    (hlt : ∀ i ∈ is, i.toNat < set.levelCount) :
    ∀ frame ∈ is.map (set.owed offset), frame.length ≤ bufferCapacity set := by
  intro frame hframe
  obtain ⟨i, hi, rfl⟩ := List.mem_map.1 hframe
  rw [TestSet.length_owed hfits offset (hlt i hi), bufferCapacity]
  omega

theorem collect_of_complete (h : r.isComplete set = true) :
    collect t set offset timeout r s = (.ok r, s) := by
  rw [collect, if_pos h]

section Step
variable {outcome : Except TransportError Delivery} {frame : Bytes} {fault : Fault}

theorem collect_of_fault (h : r.isComplete set = false)
    (hreceive : t.receive (bufferCapacity set) timeout s = (outcome, s'))
    (hawaited : awaited set r outcome = .error fault) :
    collect t set offset timeout r s = (.error fault, s') := by
  rw [collect, h, if_neg Bool.false_ne_true, hreceive]
  dsimp only
  rw [hawaited]

theorem collect_of_refused (h : r.isComplete set = false)
    (hreceive : t.receive (bufferCapacity set) timeout s = (outcome, s'))
    (hawaited : awaited set r outcome = .ok frame)
    (hexamine : examine set offset r frame = .error fault) :
    collect t set offset timeout r s = (.error fault, s') := by
  have haccept : accept set offset r frame = (.error fault, r) := by rw [accept, hexamine]
  rw [collect, h, if_neg Bool.false_ne_true, hreceive]
  dsimp only
  rw [hawaited]
  dsimp only
  split
  · rename_i hother
    rw [haccept] at hother
    cases hother
    rfl
  · rename_i hother
    rw [haccept] at hother
    cases hother

theorem collect_of_verified {v : Verified} (h : r.isComplete set = false)
    (hreceive : t.receive (bufferCapacity set) timeout s = (outcome, s'))
    (hawaited : awaited set r outcome = .ok frame)
    (hexamine : examine set offset r frame = .ok v) :
    collect t set offset timeout r s = collect t set offset timeout (r.record v.index) s' := by
  have haccept : accept set offset r frame = (.ok v, r.record v.index) := by rw [accept, hexamine]
  rw [collect, h, if_neg Bool.false_ne_true, hreceive]
  dsimp only
  rw [hawaited]
  dsimp only
  split
  · rename_i hother
    rw [haccept] at hother
    cases hother
  · rename_i hother
    rw [haccept] at hother
    cases hother
    rfl

/-- The wait after a list of verified levels that leaves one out brings something that is refused. -/
theorem collect_stops {is : List UInt8} {i : UInt8} (hnodup : is.Nodup)
    (hlt : ∀ j ∈ is, j.toNat < set.levelCount) (hi : i.toNat < set.levelCount) (hnot : i ∉ is)
    (hreceive : t.receive (bufferCapacity set) timeout s = (outcome, s'))
    (hawaited : awaited set (.ofArrival is) outcome = .ok frame)
    (hexamine : examine set offset (.ofArrival is) frame = .error fault) :
    collect t set offset timeout (.ofArrival is) s = (.error fault, s') :=
  collect_of_refused (Reception.not_isComplete_of_not_mem hnodup hlt hi hnot) hreceive hawaited
    hexamine

end Step

/-- Owed frames of new levels are taken in, one after the other. -/
theorem collect_owed (hset : set.WellPosed offset) {done is : List UInt8}
    (hnodup : (done ++ is).Nodup) (hlt : ∀ i ∈ done ++ is, i.toNat < set.levelCount)
    (hdelivers : Delivers t (bufferCapacity set) timeout s (is.map (set.owed offset)) s') :
    collect t set offset timeout (.ofArrival done) s =
      collect t set offset timeout (.ofArrival (done ++ is)) s' := by
  induction is generalizing done s with
  | nil =>
    cases hdelivers
    rw [List.append_nil]
  | cons i is ih =>
    cases hdelivers with
    | cons hreceive hrest =>
      have hi : i.toNat < set.levelCount := hlt i (by simp)
      obtain ⟨hnodup', -, hdisjoint⟩ := List.nodup_append.1 hnodup
      have hnot : i ∉ done := fun h => hdisjoint i h i List.mem_cons_self rfl
      have hlt' : ∀ j ∈ done, j.toNat < set.levelCount :=
        fun j hj => hlt j (List.mem_append_left _ hj)
      have hawaited : awaited set (.ofArrival done) _ = _ :=
        awaited_copy_of_le (TestSet.length_owed hset.fits offset hi).le
      have hexamine := examine_owed (r := .ofArrival done) hset.fits hi (hset.add_le hi)
        (Reception.contains_ofArrival_eq_false.2 hnot)
      rw [collect_of_verified (Reception.not_isComplete_of_not_mem hnodup' hlt' hi hnot) hreceive
        hawaited hexamine, ← Reception.ofArrival_append_singleton]
      have hassoc : done ++ i :: is = done ++ [i] ++ is := by simp
      rw [hassoc] at hnodup hlt ⊢
      exact ih hnodup hlt hrest

theorem collectResponses_owed (hset : set.WellPosed offset) {is : List UInt8} (hnodup : is.Nodup)
    (hlt : ∀ i ∈ is, i.toNat < set.levelCount)
    (hdelivers : Delivers t (bufferCapacity set) timeout s (is.map (set.owed offset)) s') :
    collectResponses t set offset timeout s =
      collect t set offset timeout (.ofArrival is) s' := by
  have hnodup' : ([] ++ is).Nodup := hnodup
  exact collect_owed hset hnodup' hlt hdelivers

theorem collectResponses_of_perm (hset : set.WellPosed offset) {is : List UInt8}
    (hperm : is.Perm set.levels)
    (hdelivers : Delivers t (bufferCapacity set) timeout s (is.map (set.owed offset)) s') :
    collectResponses t set offset timeout s = (.ok (.ofArrival is), s') := by
  have hnodup := TestSet.nodup_of_perm hperm
  have hlt := TestSet.lt_of_perm hperm
  have hlength : is.length = set.levelCount := by rw [hperm.length_eq, set.length_levels]
  rw [collectResponses_owed hset hnodup hlt hdelivers]
  exact collect_of_complete ((Reception.isComplete_ofArrival hnodup).2 hlength)

end OffloadBench.Round
