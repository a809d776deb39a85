import OffloadBench.Proofs.Engine.Answers

/-! # Full rounds

Whatever packets fill a round, the engine holds them lowest level first, and its running sum is for
each of them the sum of the payloads up to its level. That sum does not depend on the order in which
the packets came, so neither do the answers.
-/
namespace OffloadBench.Engine
open Device Draw Stimulus Wire

def sumOf (packets : List Packet) (elements : Nat) : Payload :=
  (List.range elements).map fun e =>
    UInt32.ofNat (packets.map fun p => (p.payload.getD e 0).toNat).sum

/-- The sum of the payloads of a round up to a level, word by word and modulo 2 ^ 32. -/
def sumUpTo (round : List Packet) (elements : Nat) (level : UInt8) : Payload :=
  (List.range elements).map fun e =>
    UInt32.ofNat ((round.filter (·.metadata.level ≤ level)).map fun p =>
      (p.payload.getD e 0).toNat).sum

def answerIn (offset : UInt8) (elements : Nat) (round : List Packet) (p : Packet) : Bytes :=
  Packet.toBytes
    ⟨{ p.metadata with level := p.metadata.level + offset },
      sumUpTo round elements p.metadata.level⟩

variable {round round' packets : List Packet}

theorem sumOf_perm (h : round.Perm round') (elements : Nat) :
    sumOf round elements = sumOf round' elements := by
  refine List.map_congr_left fun e _ => ?_
  rw [(h.map _).sum_eq]

theorem sumUpTo_perm (h : round.Perm round') (elements : Nat) (level : UInt8) :
    sumUpTo round elements level = sumUpTo round' elements level := sumOf_perm (h.filter _) elements

theorem answerIn_perm (h : round.Perm round') (offset : UInt8) (elements : Nat) :
    answerIn offset elements round = answerIn offset elements round' := by
  funext p
  rw [answerIn, answerIn, sumUpTo_perm h]

section Order
variable (within : Packet → Packet → Prop) [DecidableRel within] (hrefl : ∀ p, within p p)
include hrefl

/-- In any order in which each packet is within the next and not the other way round, the packets
within a packet are those up to its place. -/
theorem prefixSum_payloads (horder : packets.Pairwise fun p q => within p q ∧ ¬ within q p) {k : Nat}
    (hk : k < packets.length) (e : Nat) :
    prefixSum (packets.map (·.payload)) k e =
      ((packets.filter (within · packets[k])).map fun p => (p.payload.getD e 0).toNat).sum := by
  induction packets generalizing k with
  | nil => exact absurd hk (Nat.not_lt_zero k)
  | cons p rest ih =>
    obtain ⟨hfirst, hrest⟩ := List.pairwise_cons.1 horder
    cases k with
    | zero =>
      have hnone : rest.filter (within · p) = [] := by
        refine List.filter_eq_nil_iff.2 fun q hq => ?_
        rw [decide_eq_true_eq]
        exact (hfirst q hq).2
      simp [prefixSum_zero, hnone, hrefl]
    | succ k =>
      have hk' : k < rest.length := Nat.lt_of_succ_lt_succ hk
      have hwithin : within p rest[k] := (hfirst _ (List.getElem_mem hk')).1
      simp [prefixSum_cons_succ, ih hrest hk', hwithin]

theorem responses_of_order {layout : Layout} (offset : UInt8)
    (horder : packets.Pairwise fun p q => within p q ∧ ¬ within q p)
    (hpackets : ∀ p ∈ packets, p.payload.length = layout.elementCount.toNat) :
    responses layout offset packets = packets.map fun p =>
      answer offset p (sumOf (packets.filter (within · p)) layout.elementCount.toNat) := by
  have hinputs : ∀ p ∈ packets.map (·.payload), p.length = layout.elementCount.toNat := by
    simpa using hpackets
  obtain ⟨sums, hsums⟩ := Option.isSome_iff_exists.1 (runningSums?_isSome hinputs)
  obtain ⟨hlength, hlengths, hentries⟩ := runningSums?_spec hinputs hsums
  rw [List.length_map] at hlength hentries
  rw [responses_eq hpackets hsums]
  apply List.ext_getElem
  · simp [hlength]
  · intro k hk hk'
    have hk'' : k < packets.length := by simpa using hk'
    have hsum : sums[k] =
        sumOf (packets.filter (within · packets[k])) layout.elementCount.toNat := by
      rw [← List.getD_eq_getElem sums [] (hlength ▸ hk''), getD_eq_map_entry hlengths
        (hlength ▸ hk'')]
      refine List.map_congr_left fun e he => ?_
      rw [hentries k hk'' e (List.mem_range.1 he), prefixSum_payloads within hrefl horder hk'']
    rw [List.getElem_zipWith, List.getElem_map, hsum]

end Order

theorem Below.within {p q : Packet} (h : Below p q) :
    p.metadata.level ≤ q.metadata.level ∧ ¬ q.metadata.level ≤ p.metadata.level :=
  ⟨UInt8.le_of_lt h, UInt8.not_le.2 h⟩

theorem responses_of_pairwise {layout : Layout} {offset : UInt8} (horder : packets.Pairwise Below)
    (hpackets : ∀ p ∈ packets, p.payload.length = layout.elementCount.toNat) :
    responses layout offset packets = packets.map fun p =>
      ⟨p.metadata.level, answerIn offset layout.elementCount.toNat packets p⟩ :=
  responses_of_order (fun p q => p.metadata.level ≤ q.metadata.level) (fun _ => UInt8.le_refl _)
    offset (horder.imp Below.within) hpackets

/-- A round into which no fault is injected is answered frame by frame, in some order. -/
theorem emit_perm {settings : EngineSettings} {layout : Layout} (g : Generator)
    (horder : packets.Pairwise Below)
    (hpackets : ∀ p ∈ packets, p.payload.length = layout.elementCount.toNat) :
    ((settings.emit layout g packets).responses.map (·.frame)).Perm
      (packets.map (answerIn settings.levelOffset layout.elementCount.toNat packets)) := by
  have hperm := settings.arrange_perm g (responses layout settings.levelOffset packets)
  rw [responses_of_pairwise horder hpackets] at hperm
  have hframes := hperm.map (·.frame)
  rw [List.map_map] at hframes
  rw [EngineSettings.emit, responses_of_pairwise horder hpackets]
  exact hframes

namespace Simulator

variable {e : Simulator}

@[simps] def closed (e : Simulator) (g : Generator) (block : List Bytes) : Simulator where
  settings := e.settings
  generator := g
  staged := []
  outbox := e.outbox ++ block
  stats := { e.stats with
    framesEmitted := e.stats.framesEmitted + block.length
    roundsCompleted := e.stats.roundsCompleted + 1 }

/-- Without faults a full round is answered packet by packet, in some order. -/
theorem completeRound_of_quiet {layout : Layout}
    (hquiet : e.settings.faults.isActive e.stats.roundsCompleted = false)
    (horder : e.staged.Pairwise Below)
    (hpackets : ∀ p ∈ e.staged, p.payload.length = layout.elementCount.toNat) :
    ∃ (g : Generator) (block : List Bytes),
      block.Perm (e.staged.map
        (answerIn e.settings.levelOffset layout.elementCount.toNat e.staged)) ∧
      e.completeRound layout = e.closed g block := by
  refine ⟨(e.settings.emit layout e.generator e.staged).generator, _,
    emit_perm e.generator horder hpackets, ?_⟩
  rw [completeRound, if_neg (Bool.eq_false_iff.1 hquiet), closed, List.length_map]
  rfl

end Simulator

end OffloadBench.Engine
