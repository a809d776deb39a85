import OffloadBench.Proofs.Engine.Refusals

/-! # The order that a round is sent in

The frames of a round reach the engine in any order. It keeps them by level, every frame but the last
leaves the round open, and all frames have one layout, so the engine completes the same round in the
same state, whatever it has queued, counted and drawn, and whatever faults it injects. Every frame is
taken in either order: no order is lost to a refusal.
-/
namespace OffloadBench.Engine
open Device Wire

/-- The frames make up a full round: one for each level, all with one highest level and one length, which
is a word. -/
structure FillsRound (m : UInt8) (elements : Nat) (frames : List Bytes) : Prop where
  fits : 8 + 4 * elements < 2 ^ 64
  geometry : ∀ frame ∈ frames, HasGeometry m elements frame
  levels : (frames.map fun frame => (Metadata.ofBytes frame).level.toNat).Perm
    (List.range (m.toNat + 1))

theorem exists_ordered {packets : List Packet} (h : (packets.map (·.metadata.level)).Nodup) :
    ∃ round : List Packet, round.Pairwise Below ∧ round.Perm packets := by
  induction packets with
  | nil => exact ⟨[], List.Pairwise.nil, List.Perm.refl []⟩
  | cons p packets ih =>
    rw [List.map_cons, List.nodup_cons] at h
    obtain ⟨round, horder, hperm⟩ := ih h.2
    refine ⟨insertByLevel p round, insertByLevel_pairwise horder ?_,
      (insertByLevel_perm p round).trans (hperm.cons p)⟩
    intro q hq heq
    exact h.1 (heq ▸ List.mem_map_of_mem (hperm.mem_iff.1 hq))

namespace FillsRound

variable {m : UInt8} {elements : Nat} {frames frames' done rest : List Bytes} {frame : Bytes}

theorem perm (h : FillsRound m elements frames) (hperm : frames.Perm frames') :
    FillsRound m elements frames' where
  fits := h.fits
  geometry := fun frame hframe => h.geometry frame (hperm.mem_iff.2 hframe)
  levels := (hperm.map _).symm.trans h.levels

theorem nodup_levels (h : FillsRound m elements frames) :
    ((frames.map Packet.ofBytes).map (·.metadata.level)).Nodup := by
  have hnodup := h.levels.nodup_iff.2 List.nodup_range
  rw [List.map_map]
  exact List.Nodup.of_map UInt8.toNat (by rwa [List.map_map])

theorem level_le (h : FillsRound m elements frames) (hframe : frame ∈ frames) :
    (Packet.ofBytes frame).metadata.level ≤ (Packet.ofBytes frame).metadata.maxLevel := by
  have hmem := h.levels.mem_iff.1 (List.mem_map_of_mem hframe)
  have hmax : (Packet.ofBytes frame).metadata.maxLevel = m := (h.geometry frame hframe).maxLevel
  rw [hmax, UInt8.le_iff_toNat_le]
  exact Nat.le_of_lt_succ (List.mem_range.1 hmem)

/-- The level of a frame that is still to come is not the level of one that has come. -/
theorem level_ne (h : FillsRound m elements (done ++ frame :: rest)) :
    ∀ q ∈ done.map Packet.ofBytes, q.metadata.level ≠ (Packet.ofBytes frame).metadata.level := by
  intro q hq heq
  have hnodup := h.nodup_levels
  rw [List.map_append, List.map_append, List.nodup_append] at hnodup
  exact hnodup.2.2 _ (List.mem_map_of_mem hq) _ List.mem_cons_self heq

end FillsRound

namespace Simulator

def holding (e : Simulator) (staged : List Packet) (received : Nat) : Simulator :=
  { e with
    staged := staged
    stats := { e.stats with framesReceived := e.stats.framesReceived + received } }

theorem holding_took (e : Simulator) (p : Packet) (staged : List Packet) (received : Nat) :
    (e.took p).holding staged received = e.holding staged (received + 1) := by
  rw [holding, holding, Nat.add_comm received, ← Nat.add_assoc]
  rfl

variable {e : Simulator} {m : UInt8} {elements : Nat} {rest : List Bytes} {round : List Packet}

/-- The frames that a round is waiting for are all taken, and the last of them completes it. -/
theorem performAll_sends (done : List Bytes) (h : FillsRound m elements (done ++ rest)) (hrest : rest ≠ [])
    (hround : round.Pairwise Below) (hall : round.Perm ((done ++ rest).map .ofBytes))
    (horder : e.staged.Pairwise Below) (hstaged : e.staged.Perm (done.map .ofBytes))
    (log : Transcript) :
    performAll transport.recorded (rest.map .send) (e, log) =
      ((e.holding round rest.length).completeRound ⟨UInt64.ofNat elements⟩,
        log ++ (rest.map fun frame => Exchange.sent frame (.ok ())).toArray) := by
  induction rest generalizing done e log with
  | nil => exact absurd rfl hrest
  | cons frame rest ih =>
    have hframe : frame ∈ done ++ frame :: rest := by simp
    have hgeometry := h.geometry frame hframe
    have hmax : (Packet.ofBytes frame).metadata.maxLevel = m := hgeometry.maxLevel
    have hfresh : ∀ q ∈ e.staged, q.metadata.level ≠ (Packet.ofBytes frame).metadata.level :=
      fun q hq => h.level_ne q (hstaged.mem_iff.1 hq)
    have hsend := send_eq_stage hgeometry.length (hgeometry.length ▸ h.fits) (h.level_le hframe)
      hfresh
    have hcount : done.length + (rest.length + 1) = m.toNat + 1 := by
      simpa using h.levels.length_eq
    have hlength : e.staged.length = done.length := by simpa using hstaged.length_eq
    have horder' : (e.took (.ofBytes frame)).staged.Pairwise Below :=
      insertByLevel_pairwise horder hfresh
    have hstaged' : (e.took (.ofBytes frame)).staged.Perm ((done ++ [frame]).map .ofBytes) := by
      rw [List.map_append]
      exact (insertByLevel_perm _ _).trans
        ((hstaged.cons _).trans (List.perm_append_singleton _ _).symm)
    rw [List.map_cons]
    change performAll transport.recorded (rest.map .send)
      (transport.recorded.send frame (e, log)).2 = _
    rw [Transport.recorded_send, hsend]
    dsimp only
    cases rest with
    | nil =>
      have hlast : (e.took (.ofBytes frame)).staged = round :=
        eq_of_perm_of_below (hstaged'.trans hall.symm) horder' hround
      rw [stage_of_full (by rw [hmax, hlength]; exact Nat.succ.inj hcount), ← hlast]
      simp [performAll, holding, took]
    | cons frame' rest =>
      have hopen : e.staged.length ≠ (Packet.ofBytes frame).metadata.maxLevel.toNat := by
        rw [hmax, hlength]
        rw [List.length_cons] at hcount
        omega
      have hassoc : done ++ frame :: frame' :: rest = done ++ [frame] ++ frame' :: rest := by simp
      rw [hassoc] at h hall
      rw [stage_of_open hopen, ih _ h (List.cons_ne_nil _ _) hall horder' hstaged', holding_took]
      simp

end Simulator

/-- Two orders of the frames of a full round lead an engine with nothing staged to one state. -/
theorem performAll_sends_perm (e : Simulator) (hempty : e.staged = []) {m : UInt8}
    {elements : Nat} {frames frames' : List Bytes} (h : FillsRound m elements frames)
    (hperm : frames.Perm frames') :
    ∃ e' : Simulator,
      performAll Simulator.transport.recorded (frames.map .send) (e, #[]) =
        (e', (frames.map fun frame => Exchange.sent frame (.ok ())).toArray) ∧
      performAll Simulator.transport.recorded (frames'.map .send) (e, #[]) =
        (e', (frames'.map fun frame => Exchange.sent frame (.ok ())).toArray) ∧
      e'.staged = [] ∧ e'.stats.roundsCompleted = e.stats.roundsCompleted + 1 := by
  obtain ⟨round, hround, hall⟩ := exists_ordered h.nodup_levels
  have hne : frames ≠ [] := by
    rintro rfl
    simpa using h.levels.length_eq
  have hne' : frames' ≠ [] := fun hnil => hne (List.perm_nil.1 (hnil ▸ hperm))
  have horder : e.staged.Pairwise Below := hempty ▸ List.Pairwise.nil
  have hstaged : e.staged.Perm (([] : List Bytes).map .ofBytes) := hempty ▸ List.Perm.refl []
  have hsends := Simulator.performAll_sends [] h hne hround hall horder hstaged #[]
  have hsends' := Simulator.performAll_sends [] (h.perm hperm) hne' hround
    (hall.trans (hperm.map _)) horder hstaged #[]
  rw [Array.empty_append] at hsends hsends'
  rw [← hperm.length_eq] at hsends'
  exact ⟨_, hsends, hsends', rfl, rfl⟩

/-- Two levels in both orders, to an engine that has answered before and still holds an answer: it
corrupts one level, repeats the other and sums from the highest level down. -/
theorem performAll_sends_perm_twoLevels :
    let high : Bytes := [0xCD, 0xAB, 1, 5, 0, 0, 1, 1, 5, 0, 0, 0]
    let low : Bytes := [0xCD, 0xAB, 1, 5, 0, 0, 1, 0, 7, 0, 0, 0]
    let e : Simulator :=
      { settings := { faults := { duplicate := some 0, corrupt := some ⟨1, 8, 0⟩, reverse := true } }
        generator := .ofSeed 3
        outbox := [low]
        stats := { framesReceived := 2, framesEmitted := 2, roundsCompleted := 1 } }
    e.staged = [] ∧ FillsRound 1 1 [high, low] ∧ [high, low].Perm [low, high] ∧
      ∃ e' : Simulator,
        performAll Simulator.transport.recorded [.send high, .send low] (e, #[]) =
          (e', #[.sent high (.ok ()), .sent low (.ok ())]) ∧
        performAll Simulator.transport.recorded [.send low, .send high] (e, #[]) =
          (e', #[.sent low (.ok ()), .sent high (.ok ())]) ∧
        e'.staged = [] ∧ e'.stats.roundsCompleted = 2 := by
  intro high low e
  have hempty : e.staged = [] := rfl
  have hfills : FillsRound 1 1 [high, low] := by
    refine ⟨by decide, ?_, by decide⟩
    intro frame hframe
    rcases List.mem_pair.1 hframe with rfl | rfl <;> exact ⟨by decide, rfl⟩
  have hperm : [high, low].Perm [low, high] := List.Perm.swap low high []
  exact ⟨hempty, hfills, hperm, performAll_sends_perm e hempty hfills hperm⟩

end OffloadBench.Engine
