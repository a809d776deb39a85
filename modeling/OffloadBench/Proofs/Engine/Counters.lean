import Mathlib.Algebra.Order.BigOperators.Group.List
import OffloadBench.Proofs.Engine.Injection
import OffloadBench.Proofs.Engine.Requests

/-! # Counters

How fast the counters of an engine grow, whatever it is sent and whatever faults it injects. A frame that
is emitted answers one that was received, or it is the second copy of its round, and a round takes at
least one frame. A response takes three faults at most, and a round two more, the reversed sums and the
copy. So no counter passes a word before 2 ^ 61 requests are made.
-/
namespace OffloadBench.Engine
open Device Draw Stimulus Wire

section Responses
variable (layout : Layout) (offset : UInt8)

theorem length_respondAfter_le (sum : Payload) (packets : List Packet) :
    (respondAfter layout offset sum packets).length ≤ packets.length := by
  induction packets generalizing sum with
  | nil => exact Nat.le_refl 0
  | cons p rest ih =>
    have hfirst := Option.length_toList_le
      (o := respond? layout offset p.metadata (addWords p.payload sum))
    have hrest := ih (addWords p.payload sum)
    rw [respondAfter, List.length_append, List.length_cons]
    omega

theorem length_responses_le (packets : List Packet) :
    (responses layout offset packets).length ≤ packets.length := by
  cases packets with
  | nil => exact Nat.le_refl 0
  | cons p rest =>
    have hfirst := Option.length_toList_le (o := respond? layout offset p.metadata p.payload)
    have hrest := length_respondAfter_le layout offset p.payload rest
    rw [responses, List.length_append, List.length_cons]
    omega

end Responses

namespace Faults
variable (f : Faults)

theorem applyTo_snd_le (r : Response) : (f.applyTo r).2 ≤ 3 := by
  cases h : f.drops r.level with
  | true =>
    rw [applyTo_of_drops f h]
    decide
  | false =>
    rw [applyTo_of_kept f h]
    exact Nat.add_le_add (Nat.add_le_add (Bool.toNat_le _) (Bool.toNat_le _)) (Bool.toNat_le _)

theorem applyCount_le (rs : List Response) : f.applyCount rs ≤ 3 * rs.length + 1 := by
  have hsum : (rs.map fun r => (f.applyTo r).2).sum ≤ rs.length * 3 := by
    have hle := List.sum_le_card_nsmul (rs.map fun r => (f.applyTo r).2) 3 fun n hn => by
      obtain ⟨r, -, rfl⟩ := List.mem_map.1 hn
      exact f.applyTo_snd_le r
    rwa [List.length_map] at hle
  change (if f.reverse then 1 else 0) + (rs.map fun r => (f.applyTo r).2).sum ≤ _
  split <;> omega

theorem repeatFirst_le (rs : List Response) :
    (f.repeatFirst rs).1.length ≤ rs.length + 1 ∧ (f.repeatFirst rs).2 ≤ 1 := by
  cases hfind : rs.find? fun r => f.repeats r.level with
  | none =>
    rw [f.repeatFirst_of_none hfind]
    exact ⟨Nat.le_succ _, Nat.zero_le _⟩
  | some r =>
    rw [f.repeatFirst_of_some hfind]
    have hmem := List.mem_of_find?_eq_some hfind
    have herase := List.length_eraseP_of_mem hmem (List.find?_some hfind)
    have hpos := List.length_pos_of_mem hmem
    refine ⟨?_, Nat.le_refl 1⟩
    rw [List.length_cons, List.length_cons, herase]
    omega

end Faults

section Emissions
variable (s : EngineSettings) (layout : Layout) (g : Generator) (packets : List Packet)

theorem EngineSettings.emit_le :
    (s.emit layout g packets).responses.length ≤ packets.length ∧
      (s.emit layout g packets).faults = 0 := by
  have hperm := s.arrange_perm g (responses layout s.levelOffset packets)
  exact ⟨hperm.length_eq.trans_le (length_responses_le _ _ _), rfl⟩

theorem EngineSettings.emitFaulty_le :
    (s.emitFaulty layout g packets).responses.length ≤ packets.length + 1 ∧
      (s.emitFaulty layout g packets).faults ≤ 3 * packets.length + 2 := by
  let sound := responses layout s.levelOffset (if s.faults.reverse then packets.reverse else packets)
  have hsound : sound.length ≤ packets.length := by
    refine (length_responses_le _ _ _).trans_eq ?_
    split
    · exact List.length_reverse
    · rfl
  have hkept : (s.arrange g (s.faults.apply sound)).1.length ≤ sound.length :=
    (s.arrange_perm g _).length_eq.trans_le (List.length_filterMap_le _ _)
  obtain ⟨hlength, hcopy⟩ := s.faults.repeatFirst_le (s.arrange g (s.faults.apply sound)).1
  have hcount := s.faults.applyCount_le sound
  have hfaults : s.faults.applyCount sound +
      (s.faults.repeatFirst (s.arrange g (s.faults.apply sound)).1).2 ≤ 3 * packets.length + 2 := by
    omega
  exact ⟨hlength.trans (Nat.succ_le_succ (hkept.trans hsound)), hfaults⟩

end Emissions

namespace Simulator

structure Counted (e : Simulator) : Prop where
  rounds : e.stats.roundsCompleted + e.staged.length ≤ e.stats.framesReceived
  emitted : e.stats.framesEmitted + e.staged.length ≤
    e.stats.framesReceived + e.stats.roundsCompleted
  faults : e.stats.faultsInjected + 3 * e.staged.length ≤
    3 * e.stats.framesReceived + 2 * e.stats.roundsCompleted

variable {e : Simulator}

theorem Counted.took (h : e.Counted) (p : Packet) : (e.took p).Counted := by
  obtain ⟨hrounds, hemitted, hfaults⟩ := h
  have hstaged := e.length_took p
  constructor <;> rw [hstaged] <;> simp only [Simulator.took] <;> omega

theorem Counted.completeRound (h : e.Counted) (hpos : 0 < e.staged.length) (layout : Layout) :
    (e.completeRound layout).Counted := by
  obtain ⟨hrounds, hemitted, hfaults⟩ := h
  obtain ⟨emission, hlength, hcount, hcomplete⟩ : ∃ emission : Emission,
      emission.responses.length ≤ e.staged.length + 1 ∧
      emission.faults ≤ 3 * e.staged.length + 2 ∧
      e.completeRound layout = { e with
        generator := emission.generator
        staged := []
        outbox := e.outbox ++ emission.responses.map (·.frame)
        stats := { e.stats with
          framesEmitted := e.stats.framesEmitted + emission.responses.length
          roundsCompleted := e.stats.roundsCompleted + 1
          faultsInjected := e.stats.faultsInjected + emission.faults } } := by
    unfold Simulator.completeRound
    cases e.settings.faults.isActive e.stats.roundsCompleted with
    | true =>
      obtain ⟨hlength, hcount⟩ := e.settings.emitFaulty_le layout e.generator e.staged
      exact ⟨_, hlength, hcount, rfl⟩
    | false =>
      obtain ⟨hlength, hcount⟩ := e.settings.emit_le layout e.generator e.staged
      exact ⟨_, Nat.le_succ_of_le hlength, hcount ▸ Nat.zero_le _, rfl⟩
  rw [hcomplete]
  constructor <;> simp only [List.length_nil] <;> omega

theorem Counted.perform (h : e.Counted) (r : Request) :
    (r.perform transport e).Counted ∧
      (r.perform transport e).stats.framesReceived ≤ e.stats.framesReceived + 1 := by
  obtain hsame | ⟨_, _, -, htake⟩ | ⟨_, layout, p, -, hstage⟩ := e.perform_cases r
  · rw [hsame]
    exact ⟨h, Nat.le_succ _⟩
  · rw [htake]
    exact ⟨⟨h.rounds, h.emitted, h.faults⟩, Nat.le_succ _⟩
  · have hpos : 0 < (e.took p).staged.length := e.length_took p ▸ Nat.succ_pos _
    rw [hstage, stage_eq]
    split
    · exact ⟨(h.took p).completeRound hpos layout, Nat.le_refl _⟩
    · exact ⟨h.took p, Nat.le_refl _⟩

theorem counted_performAll (settings : EngineSettings) (requests : List Request) :
    (performAll transport requests (ofSettings settings)).Counted ∧
      (performAll transport requests (ofSettings settings)).stats.framesReceived ≤
        requests.length := by
  induction requests using List.reverseRecOn with
  | nil => exact ⟨⟨Nat.le_refl 0, Nat.le_refl 0, Nat.le_refl 0⟩, Nat.le_refl 0⟩
  | append_singleton requests r ih =>
    obtain ⟨hcounted, hreceived⟩ := ih
    obtain ⟨hcounted', hreceived'⟩ := hcounted.perform r
    rw [performAll_append_singleton, List.length_append, List.length_singleton]
    exact ⟨hcounted', hreceived'.trans (Nat.succ_le_succ hreceived)⟩

/-- No counter passes a word before 2 ^ 61 requests are made. -/
theorem counters_lt (settings : EngineSettings) {requests : List Request}
    (h : requests.length < 2 ^ 61) :
    let stats := (performAll transport requests (ofSettings settings)).stats
    stats.framesReceived < 2 ^ 64 ∧ stats.framesEmitted < 2 ^ 64 ∧
      stats.roundsCompleted < 2 ^ 64 ∧ stats.faultsInjected < 2 ^ 64 := by
  obtain ⟨⟨hrounds, hemitted, hfaults⟩, hreceived⟩ := counted_performAll settings requests
  dsimp only
  omega

end Simulator

end OffloadBench.Engine
