import Mathlib.Data.List.Sort
import OffloadBench.Engine.Simulator
import OffloadBench.Proofs.Run.Sets
import OffloadBench.Proofs.Stimulus.Spread

/-! # Staging

The stimuli of a set reach the engine in any order. Staging keeps them by level, so once the last of
them is in, the engine holds them lowest level first, whatever the order was; only then does it
complete the round.
-/
namespace OffloadBench.Engine
open Device Round Wire

def Below (p q : Packet) : Prop := p.metadata.level < q.metadata.level

theorem insertByLevel_perm (p : Packet) (staged : List Packet) :
    (insertByLevel p staged).Perm (p :: staged) := by
  induction staged with
  | nil => exact List.Perm.refl _
  | cons q rest ih =>
    rw [insertByLevel]
    split
    · exact List.Perm.refl _
    · exact (ih.cons q).trans (List.Perm.swap p q rest)

/-- Insertion of a level that is not staged keeps the levels in order. -/
theorem insertByLevel_pairwise {p : Packet} {staged : List Packet} (h : staged.Pairwise Below)
    (hfresh : ∀ q ∈ staged, q.metadata.level ≠ p.metadata.level) :
    (insertByLevel p staged).Pairwise Below := by
  induction staged with
  | nil => exact List.pairwise_singleton _ _
  | cons q rest ih =>
    obtain ⟨hq, hrest⟩ := List.pairwise_cons.1 h
    rw [insertByLevel]
    split
    · rename_i hlt
      refine List.pairwise_cons.2 ⟨?_, h⟩
      intro r hr
      rcases List.mem_cons.1 hr with rfl | hr
      · exact hlt
      · exact UInt8.lt_trans hlt (hq r hr)
    · rename_i hnot
      have hqp : Below q p := by
        refine UInt8.lt_of_le_of_ne (UInt8.not_lt.1 hnot) ?_
        exact hfresh q List.mem_cons_self
      refine List.pairwise_cons.2
        ⟨?_, ih hrest fun r hr => hfresh r (List.mem_cons_of_mem _ hr)⟩
      intro r hr
      rcases List.mem_cons.1 ((insertByLevel_perm p rest).mem_iff.1 hr) with rfl | hr
      · exact hqp
      · exact hq r hr

/-- Packets of different levels have one order only. -/
theorem eq_of_perm_of_below {staged staged' : List Packet} (hperm : staged.Perm staged')
    (h : staged.Pairwise Below) (h' : staged'.Pairwise Below) : staged = staged' := by
  refine hperm.eq_of_pairwise ?_ h h'
  intro p q _ _ hpq hqp
  exact absurd (UInt8.lt_trans hpq hqp) (UInt8.lt_irrefl _)

theorem layoutOfLength?_toBytes {layout : Layout} {p : Packet}
    (h : p.payload.length = layout.elementCount.toNat) :
    layoutOfLength? p.toBytes.length = some layout := by
  rw [layoutOfLength?, p.length_toBytes, Nat.add_sub_cancel_left, if_neg (by omega),
    Nat.mul_div_cancel_left _ (by omega), h, UInt64.ofNat_toNat]

end OffloadBench.Engine

namespace OffloadBench.Round.TestSet
open Engine Wire

variable {set : TestSet}

def stimuli (set : TestSet) : List Packet := (List.range set.levelCount).map set.stimulus

@[simp] theorem length_stimuli (set : TestSet) : set.stimuli.length = set.levelCount := by
  simp [stimuli]

theorem level_stimulus (set : TestSet) {l : Nat} (hl : l < set.levelCount) :
    (set.stimulus l).metadata.level.toNat = l :=
  Stimulus.toNat_levelByte (Nat.lt_of_lt_of_le hl set.levelCount_le)

theorem stimuli_pairwise (set : TestSet) : set.stimuli.Pairwise Below := by
  refine List.pairwise_map.2 (List.pairwise_lt_range.imp_of_mem ?_)
  intro i j hi hj hlt
  rw [Below, UInt8.lt_iff_toNat_lt, set.level_stimulus (List.mem_range.1 hi),
    set.level_stimulus (List.mem_range.1 hj)]
  exact hlt

theorem eq_stimuli {staged : List Packet} {done : List Nat} (horder : staged.Pairwise Below)
    (hperm : staged.Perm (done.map set.stimulus)) (hall : done.Perm (List.range set.levelCount)) :
    staged = set.stimuli :=
  eq_of_perm_of_below (hperm.trans (hall.map _)) horder set.stimuli_pairwise

end OffloadBench.Round.TestSet

namespace OffloadBench.Engine.Simulator
open Device Round Wire

/-- The engine with one more packet staged, before it looks whether the round is full. -/
def took (e : Simulator) (p : Packet) : Simulator :=
  { e with
    staged := insertByLevel p e.staged
    stats := { e.stats with framesReceived := e.stats.framesReceived + 1 } }

theorem stage_eq (e : Simulator) (layout : Layout) (p : Packet) :
    e.stage layout p =
      if (e.took p).staged.length = p.metadata.maxLevel.toNat + 1 then
        (e.took p).completeRound layout
      else e.took p := rfl

variable {e : Simulator} {set : TestSet} {done : List Nat} {l : Nat}

theorem length_took (e : Simulator) (p : Packet) :
    (e.took p).staged.length = e.staged.length + 1 := (insertByLevel_perm _ _).length_eq

theorem stage_of_open {layout : Layout} {p : Packet}
    (h : e.staged.length ≠ p.metadata.maxLevel.toNat) : e.stage layout p = e.took p := by
  rw [stage_eq, length_took, if_neg (by omega)]

theorem stage_of_full {layout : Layout} {p : Packet}
    (h : e.staged.length = p.metadata.maxLevel.toNat) :
    e.stage layout p = (e.took p).completeRound layout := by
  rw [stage_eq, length_took, if_pos (by omega)]

/-- The stimuli of the given levels, and no others, are staged, lowest level first. -/
structure Holds (e : Simulator) (set : TestSet) (done : List Nat) : Prop where
  order : e.staged.Pairwise Below
  perm : e.staged.Perm (done.map set.stimulus)

def filled (e : Simulator) (set : TestSet) (n : Nat) : Simulator :=
  { e with
    staged := set.stimuli
    stats := { e.stats with framesReceived := e.stats.framesReceived + n } }

theorem Holds.fresh (h : e.Holds set done) (hlt : ∀ k ∈ done, k < set.levelCount)
    (hl : l < set.levelCount) (hnot : l ∉ done) :
    ∀ p ∈ e.staged, p.metadata.level ≠ (set.stimulus l).metadata.level := by
  intro p hp heq
  obtain ⟨k, hk, rfl⟩ := List.mem_map.1 (h.perm.mem_iff.1 hp)
  have hlevel := congrArg UInt8.toNat heq
  rw [set.level_stimulus (hlt k hk), set.level_stimulus hl] at hlevel
  exact hnot (hlevel ▸ hk)

theorem Holds.took (h : e.Holds set done) (hlt : ∀ k ∈ done, k < set.levelCount)
    (hl : l < set.levelCount) (hnot : l ∉ done) :
    (e.took (set.stimulus l)).Holds set (done ++ [l]) := by
  refine ⟨insertByLevel_pairwise h.order (h.fresh hlt hl hnot), ?_⟩
  rw [List.map_append]
  exact (insertByLevel_perm _ _).trans ((h.perm.cons _).trans (List.perm_append_singleton _ _).symm)

theorem Holds.took_last (h : (e.took (set.stimulus l)).Holds set done)
    (hall : done.Perm (List.range set.levelCount)) :
    e.took (set.stimulus l) = e.filled set 1 := by
  have hstaged := TestSet.eq_stimuli h.order h.perm hall
  rw [filled, ← hstaged]
  rfl

theorem filled_took (e : Simulator) (set : TestSet) (p : Packet) (n : Nat) :
    (e.took p).filled set n = e.filled set (n + 1) := by
  rw [filled, filled, Nat.add_comm n, ← Nat.add_assoc]
  rfl

theorem send_stimulus (h : e.Holds set done) (hlt : ∀ k ∈ done, k < set.levelCount)
    (hl : l < set.levelCount) (hnot : l ∉ done) (hfits : set.Fits) :
    Simulator.send (set.stimulus l).toBytes e = (.ok (), e.stage set.layout (set.stimulus l)) := by
  have hpayload := TestSet.length_stimulus hl
  have hlayout : layoutOfLength? (set.stimulus l).toBytes.length = some set.layout :=
    layoutOfLength?_toBytes hpayload
  have hdecode : set.layout.decode (set.stimulus l).toBytes = .ok (set.stimulus l) :=
    Layout.decode_toBytes (TestSet.length_toBytes hfits hpayload)
  have hlevel : ¬ (set.stimulus l).metadata.maxLevel < (set.stimulus l).metadata.level := by
    rw [UInt8.lt_iff_toNat_lt, set.level_stimulus hl]
    change ¬ set.packet.maxLevel.toNat < l
    rw [set.levelCount_eq, Config.PacketSettings.levelCount] at hl
    omega
  have hstaged : ¬ e.isStaged (set.stimulus l).metadata.level = true := by
    rw [isStaged, List.any_eq_true]
    rintro ⟨p, hp, heq⟩
    exact h.fresh hlt hl hnot p hp (beq_iff_eq.1 heq)
  have hinspect : e.inspect (set.stimulus l).toBytes = .ok (set.layout, set.stimulus l) := by
    rw [inspect, hlayout]
    dsimp only
    rw [hdecode]
    dsimp only
    rw [if_neg hlevel, if_neg hstaged]
  rw [send, hinspect]

/-- The levels that are left fill the round, and the last of them completes it. -/
theorem sendLevels_holds (hfits : set.Fits) {rest : List Nat} (hrest : rest ≠ [])
    (hall : (done ++ rest).Perm (List.range set.levelCount)) (h : e.Holds set done) :
    sendLevels transport set rest e =
      (.ok (), (e.filled set rest.length).completeRound set.layout) := by
  induction rest generalizing done e with
  | nil => exact absurd rfl hrest
  | cons l rest ih =>
    have hlt : ∀ k ∈ done ++ l :: rest, k < set.levelCount :=
      fun k hk => List.mem_range.1 (hall.mem_iff.1 hk)
    have hl : l < set.levelCount := hlt l (by simp)
    have hdone : ∀ k ∈ done, k < set.levelCount := fun k hk => hlt k (List.mem_append_left _ hk)
    have hnot : l ∉ done := by
      have hnodup := hall.nodup_iff.2 List.nodup_range
      exact fun hmem => (List.nodup_append.1 hnodup).2.2 l hmem l List.mem_cons_self rfl
    have hsend : transport.send (set.stimulus l).toBytes e =
        (.ok (), e.stage set.layout (set.stimulus l)) := send_stimulus h hdone hl hnot hfits
    have hnext := h.took hdone hl hnot
    have hcount : done.length + (rest.length + 1) = set.packet.maxLevel.toNat + 1 := by
      have := hall.length_eq
      rwa [List.length_append, List.length_cons, List.length_range, set.levelCount_eq] at this
    have hstaged : e.staged.length = done.length := by rw [h.perm.length_eq, List.length_map]
    have hmax : (set.stimulus l).metadata.maxLevel = set.packet.maxLevel := rfl
    rw [sendLevels, TestSet.stimulusFrame_eq hl]
    dsimp only
    rw [hsend]
    dsimp only
    cases rest with
    | nil =>
      rw [stage_of_full (by rw [hmax, hstaged]; exact Nat.succ.inj hcount), hnext.took_last hall]
      rfl
    | cons l' rest =>
      have hopen : e.staged.length ≠ (set.stimulus l).metadata.maxLevel.toNat := by
        rw [hmax, hstaged]
        rw [List.length_cons] at hcount
        omega
      have hall' : (done ++ [l] ++ l' :: rest).Perm (List.range set.levelCount) := by
        rwa [List.append_assoc]
      rw [stage_of_open hopen, ih (List.cons_ne_nil _ _) hall' hnext, filled_took]
      rfl

/-- An engine with nothing staged receives every stimulus of a set and completes the round. -/
theorem sendStimuli_of_empty (hfits : set.Fits) (h : e.staged = []) :
    sendStimuli transport set e =
      (.ok (), (e.filled set set.levelCount).completeRound set.layout) := by
  have hpos : 0 < set.order.length := by
    rw [set.length_order, set.levelCount_eq]
    exact set.packet.levelCount_pos
  have hholds : e.Holds set [] := ⟨by simp [h], by simp [h]⟩
  have hall : ([] ++ set.order).Perm (List.range set.levelCount) := set.order_perm
  have hsend := sendLevels_holds hfits (List.ne_nil_of_length_pos hpos) hall hholds
  rw [sendStimuli, hsend, set.length_order]

end OffloadBench.Engine.Simulator
