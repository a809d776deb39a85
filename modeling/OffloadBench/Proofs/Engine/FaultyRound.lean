import OffloadBench.Proofs.Engine.FullRound
import OffloadBench.Proofs.Engine.Injection
import OffloadBench.Proofs.Engine.Refusals

/-! # Faulty rounds

What a complete round queues and counts, for every combination of faults. In a round in which the faults
are not active the engine does what it does without them.

In the others the sound responses, with sums in either direction, go through the faults one by one. Each
response that is not dropped is queued with what the faults make of its frame, and a repeated one once
more; the two copies are the first frames of the round, and the order of the others is arbitrary. The
faults that found a response to act on are counted once each, and so are reversed sums. A level that no
fault names is answered once, and as it is without faults.
-/
namespace OffloadBench.Engine
open Device Draw Stimulus Wire

theorem nodup_levels_of_pairwise {packets : List Packet} (horder : packets.Pairwise Below) :
    (packets.map (·.metadata.level)).Nodup := List.pairwise_map.2 (horder.imp UInt8.ne_of_lt)

namespace Faults

variable (f : Faults) (offset : UInt8) (elements : Nat)

/-- The sum that answers a packet of a round: of the levels up to its own or, reversed, from its own up. -/
def sumIn (round : List Packet) (p : Packet) : Payload :=
  if f.reverse then sumOf (round.filter fun q => p.metadata.level ≤ q.metadata.level) elements
  else sumUpTo round elements p.metadata.level

def respondIn (round : List Packet) (p : Packet) : Response :=
  answer offset p (f.sumIn elements round p)

def answersIn (round : List Packet) : List Response := round.map (f.respondIn offset elements round)

variable {round round' packets : List Packet}

theorem respondIn_perm (h : round.Perm round') :
    f.respondIn offset elements round = f.respondIn offset elements round' := by
  funext p
  rw [respondIn, respondIn, sumIn, sumIn, sumOf_perm (h.filter _), sumUpTo_perm h]

theorem answersIn_perm (h : round.Perm round') :
    (f.answersIn offset elements round).Perm (f.answersIn offset elements round') := by
  rw [answersIn, answersIn, respondIn_perm f offset elements h]
  exact h.map _

theorem distinct_answersIn (h : (round.map (·.metadata.level)).Nodup) :
    ((f.answersIn offset elements round).map (·.level)).Nodup := by
  rw [answersIn, List.map_map]
  exact h

/-- Summed in either direction, every level is answered once. -/
theorem responses_perm_answersIn {layout : Layout} (horder : packets.Pairwise Below)
    (hpackets : ∀ p ∈ packets, p.payload.length = layout.elementCount.toNat) :
    (responses layout offset (if f.reverse then packets.reverse else packets)).Perm
      (f.answersIn offset layout.elementCount.toNat packets) := by
  cases hreverse : f.reverse with
  | false =>
    rw [if_neg Bool.false_ne_true, responses_of_pairwise horder hpackets]
    refine List.Perm.of_eq (List.map_congr_left fun p _ => ?_)
    rw [respondIn, sumIn, hreverse]
    rfl
  | true =>
    have horder' : packets.reverse.Pairwise fun p q =>
        q.metadata.level ≤ p.metadata.level ∧ ¬ p.metadata.level ≤ q.metadata.level :=
      List.pairwise_reverse.2 (horder.imp Below.within)
    rw [if_pos rfl, responses_of_order (fun p q => q.metadata.level ≤ p.metadata.level)
      (fun _ => UInt8.le_refl _) offset horder' fun p hp => hpackets p (List.mem_reverse.1 hp)]
    refine (List.Perm.of_eq (List.map_congr_left fun p _ => ?_)).trans
      ((List.reverse_perm packets).map _)
    rw [respondIn, sumIn, if_pos hreverse, sumOf_perm ((List.reverse_perm packets).filter _)]

theorem injections_perm {rs rs' : List Response} (h : rs.Perm rs') :
    f.injections rs = f.injections rs' := by
  have hkept : (f.kept rs).Perm (f.kept rs') := h.filter _
  simp only [injections, h.any_eq, hkept.any_eq]

end Faults

/-- Of a round into which faults are injected, the frames are those that the faults make of the sound
responses, a repeated one in front. -/
theorem emitFaulty_spec {settings : EngineSettings} {layout : Layout} (g : Generator)
    {packets round : List Packet} (hround : packets.Perm round) (horder : packets.Pairwise Below)
    (hpackets : ∀ p ∈ packets, p.payload.length = layout.elementCount.toNat) :
    let f := settings.faults
    let answers := f.answersIn settings.levelOffset layout.elementCount.toNat round
    let emission := settings.emitFaulty layout g packets
    (emission.responses.map (·.frame)).Perm ((f.kept answers ++ f.repeated answers).map f.spoiled) ∧
      (∀ r ∈ f.repeated answers,
        [f.spoiled r, f.spoiled r] <+: emission.responses.map (·.frame)) ∧
      emission.faults = (f.injections answers).count true := by
  intro f answers emission
  have hsound := (f.responses_perm_answersIn settings.levelOffset horder hpackets).trans
    (f.answersIn_perm _ _ hround)
  have hresponses : emission.responses = (f.repeatFirst (settings.arrange g (f.apply _)).1).1 := rfl
  have hfaults : emission.faults =
      f.applyCount _ + (f.repeatFirst (settings.arrange g (f.apply _)).1).2 := rfl
  generalize responses layout settings.levelOffset
    (if f.reverse then packets.reverse else packets) = sound at hsound hresponses hfaults
  have hleft : (settings.arrange g (f.apply sound)).1.Perm ((f.kept answers).map f.spoil) := by
    refine (settings.arrange_perm g _).trans ?_
    rw [f.apply_eq]
    exact (hsound.filter _).map _
  generalize (settings.arrange g (f.apply sound)).1 = left at hleft hresponses hfaults
  have hdistinct : (answers.map (·.level)).Nodup :=
    f.distinct_answersIn _ _ ((hround.map _).nodup_iff.1 (nodup_levels_of_pairwise horder))
  have hdistinct' : (left.map (·.level)).Nodup := by
    rw [(hleft.map _).nodup_iff, List.map_map]
    exact hdistinct.sublist (List.filter_sublist.map _)
  obtain ⟨hperm, hfront, hcount⟩ := f.repeatFirst_spec hdistinct'
  rw [hresponses, hfaults]
  refine ⟨?_, ?_, ?_⟩
  · have hall := hperm.trans (hleft.append (hleft.filter _))
    rw [List.filter_map, ← List.map_append] at hall
    have hframes := hall.map (·.frame)
    rw [List.map_map] at hframes
    exact hframes
  · intro r hr
    obtain ⟨hkept, hrepeats⟩ := List.mem_filter.1 hr
    exact (hfront _ (hleft.mem_iff.2 (List.mem_map_of_mem hkept)) hrepeats).map (·.frame)
  · have hrepeated : left.any (fun r => f.repeats r.level) =
        (f.kept sound).any fun r => f.repeats r.level := by
      rw [hleft.any_eq, List.any_map]
      exact (hsound.filter _).any_eq.symm
    rw [hcount, hrepeated, f.applyCount_add_repeated ((hsound.map _).nodup_iff.2 hdistinct),
      f.injections_perm hsound]

namespace Simulator

def withoutFaults (e : Simulator) : Simulator :=
  { e with settings := { e.settings with faults := {} } }

variable {e : Simulator}

theorem completeRound_withoutFaults
    (hinactive : e.settings.faults.isActive e.stats.roundsCompleted = false) (layout : Layout) :
    e.withoutFaults.completeRound layout = (e.completeRound layout).withoutFaults := by
  have hnone : e.withoutFaults.settings.faults.isActive e.withoutFaults.stats.roundsCompleted = false :=
    Faults.isActive_eq_false rfl _
  rw [completeRound, completeRound, if_neg (Bool.eq_false_iff.1 hnone),
    if_neg (Bool.eq_false_iff.1 hinactive)]
  rfl

theorem send_withoutFaults {frame : Bytes}
    (hinactive : e.settings.faults.isActive e.stats.roundsCompleted = false) :
    transport.send frame e.withoutFaults =
      ((transport.send frame e).1, (transport.send frame e).2.withoutFaults) := by
  have hinspect : e.withoutFaults.inspect frame = e.inspect frame := rfl
  cases h : e.inspect frame with
  | error refusal => rw [send_of_inspect_error h, send_of_inspect_error (hinspect.trans h)]
  | ok inspected =>
    obtain ⟨layout, p⟩ := inspected
    rw [send_of_inspect_ok h, send_of_inspect_ok (hinspect.trans h)]
    by_cases hfull : e.staged.length = p.metadata.maxLevel.toNat
    · have hround : (e.withoutFaults.took p).completeRound layout =
          ((e.took p).completeRound layout).withoutFaults :=
        completeRound_withoutFaults (e := e.took p) hinactive layout
      rw [stage_of_full hfull, stage_of_full (e := e.withoutFaults) hfull, hround]
    · rw [stage_of_open hfull, stage_of_open (e := e.withoutFaults) hfull]
      rfl

variable {layout : Layout} {round : List Packet}

theorem completeRound_active (hround : e.staged.Perm round) (horder : e.staged.Pairwise Below)
    (hpackets : ∀ p ∈ e.staged, p.payload.length = layout.elementCount.toNat)
    (hactive : e.settings.faults.isActive e.stats.roundsCompleted = true) :
    let f := e.settings.faults
    let answers := f.answersIn e.settings.levelOffset layout.elementCount.toNat round
    let e' := e.completeRound layout
    e'.stats.framesEmitted =
        e.stats.framesEmitted + ((f.kept answers).length + (f.repeated answers).length) ∧
      e'.stats.faultsInjected = e.stats.faultsInjected + (f.injections answers).count true ∧
      (f.repeated answers).length ≤ 1 ∧
      ∃ block, e'.outbox = e.outbox ++ block ∧
        block.Perm ((f.kept answers ++ f.repeated answers).map f.spoiled) ∧
        ∀ r ∈ f.repeated answers, [f.spoiled r, f.spoiled r] <+: block := by
  intro f answers e'
  obtain ⟨hperm, hfront, hcount⟩ := emitFaulty_spec e.generator hround horder hpackets
  have hlength := hperm.length_eq
  rw [List.length_map, List.length_map, List.length_append] at hlength
  have he' : e' = e.completeRound layout := rfl
  rw [completeRound, if_pos hactive] at he'
  rw [he']
  have hdistinct := f.distinct_answersIn e.settings.levelOffset layout.elementCount.toNat
    ((hround.map _).nodup_iff.1 (nodup_levels_of_pairwise horder))
  exact ⟨congrArg _ hlength, congrArg _ hcount, f.length_repeated_le hdistinct, _, rfl, hperm, hfront⟩

end Simulator

theorem Faults.respondIn_of_spares (f : Faults) {offset : UInt8} {elements : Nat}
    {round : List Packet} {p : Packet} (hp : p ∈ round) (h : f.spares p.metadata.level = true) :
    let r := f.respondIn offset elements round p
    r ∈ f.kept (f.answersIn offset elements round) ∧
      r ∉ f.repeated (f.answersIn offset elements round) ∧
      f.spoiled r = answerIn offset elements round p := by
  intro r
  obtain ⟨hreverse, hdrop, -, -, -, hrepeat⟩ := f.spares_iff.1 h
  have hlevel : r.level = p.metadata.level := rfl
  refine ⟨List.mem_filter.2 ⟨List.mem_map_of_mem hp, ?_⟩, ?_, ?_⟩
  · rw [hlevel, hdrop, Bool.not_false]
  · intro hmem
    have htwice := (List.mem_filter.1 hmem).2
    rw [hlevel, hrepeat] at htwice
    exact Bool.false_ne_true htwice
  · rw [f.spoiled_of_spares (hlevel ▸ h)]
    change Packet.toBytes ⟨_, f.sumIn elements round p⟩ = _
    rw [sumIn, hreverse, if_neg Bool.false_ne_true]
    rfl

/-- What a complete round queues and counts, for every combination of faults and whatever the engine has
queued, counted and drawn before. -/
theorem faulty_round_exact (e : Simulator) (horder : e.staged.Pairwise Below) {frame : Bytes}
    {elements : Nat} (hok : (Simulator.transport.send frame e).1 = .ok ())
    (hlast : e.staged.length = (Metadata.ofBytes frame).maxLevel.toNat)
    (hlength : frame.length = 8 + 4 * elements)
    (hstaged : ∀ p ∈ e.staged, p.payload.length = elements) :
    let f := e.settings.faults
    let offset := e.settings.levelOffset
    let round := Packet.ofBytes frame :: e.staged
    let answers := f.answersIn offset elements round
    let e' := (Simulator.transport.send frame e).2
    (f.isActive e.stats.roundsCompleted = false →
      Simulator.transport.send frame e.withoutFaults = (.ok (), e'.withoutFaults) ∧
      e'.stats.faultsInjected = e.stats.faultsInjected ∧
      ∃ block, e'.outbox = e.outbox ++ block ∧
        block.Perm (round.map (answerIn offset elements round))) ∧
    (f.isActive e.stats.roundsCompleted = true →
      e'.stats.framesEmitted =
        e.stats.framesEmitted + ((f.kept answers).length + (f.repeated answers).length) ∧
      e'.stats.faultsInjected = e.stats.faultsInjected + (f.injections answers).count true ∧
      (f.repeated answers).length ≤ 1 ∧
      ∃ block, e'.outbox = e.outbox ++ block ∧
        block.Perm ((f.kept answers ++ f.repeated answers).map f.spoiled) ∧
        ∀ r ∈ f.repeated answers, [f.spoiled r, f.spoiled r] <+: block) ∧
    ∀ p ∈ round, f.spares p.metadata.level = true →
      let r := f.respondIn offset elements round p
      r ∈ f.kept answers ∧ r ∉ f.repeated answers ∧ f.spoiled r = answerIn offset elements round p := by
  intro f offset round answers e'
  obtain ⟨layout, hinspect, hsend⟩ := Simulator.send_of_ok hok
  obtain ⟨hlayout, hdecode, -, hfresh⟩ := Simulator.inspect_eq_ok_iff.1 hinspect
  have helements := toNat_elementCount hlength hlayout hdecode
  have he' : e' = (e.took (.ofBytes frame)).completeRound layout :=
    hsend.trans (Simulator.stage_of_full hlast)
  have hround : (e.took (.ofBytes frame)).staged.Perm round := insertByLevel_perm _ _
  have horder' : (e.took (.ofBytes frame)).staged.Pairwise Below := insertByLevel_pairwise horder hfresh
  have hpackets : ∀ p ∈ (e.took (.ofBytes frame)).staged,
      p.payload.length = layout.elementCount.toNat := by
    intro p hp
    rw [helements]
    rcases List.mem_cons.1 (hround.mem_iff.1 hp) with rfl | hp
    · exact HasGeometry.length_payload ⟨rfl, hlength⟩
    · exact hstaged p hp
  refine ⟨?_, ?_, fun p hp h => f.respondIn_of_spares hp h⟩
  · intro hinactive
    obtain ⟨g, block, hblock, hclosed⟩ :=
      Simulator.completeRound_of_quiet (e := e.took (.ofBytes frame)) hinactive horder' hpackets
    rw [helements, answerIn_perm hround] at hblock
    refine ⟨?_, ?_, block, ?_, hblock.trans (hround.map _)⟩
    · rw [Simulator.send_withoutFaults hinactive, hok]
    · rw [he', hclosed]
      rfl
    · rw [he', hclosed]
      rfl
  · intro hactive
    have hfaulty := Simulator.completeRound_active hround horder' hpackets hactive
    rw [← he', helements] at hfaulty
    exact hfaulty

/-- Three levels: the highest is dropped, the middle one flipped by either mask and truncated, the lowest
repeated. The round before that answers as if there were no faults. -/
theorem faulty_round_exact_fourFaults :
    let high : Bytes := [0xCD, 0xAB, 1, 5, 0, 0, 2, 2, 3, 0, 0, 0]
    let middle : Bytes := [0xCD, 0xAB, 1, 5, 0, 0, 2, 1, 5, 0, 0, 0]
    let low : Bytes := [0xCD, 0xAB, 1, 5, 0, 0, 2, 0, 7, 0, 0, 0]
    let flippedTo (byte : UInt8) : Bytes := [0xCD, 0xAB, 1, 5, 0, 0, 2, 1, byte, 0]
    let f (mask : UInt8) : Faults :=
      { drop := some 2, corrupt := some ⟨1, 8, mask⟩, truncate := some ⟨1, 2⟩, duplicate := some 0
        round := some 1 }
    let e (mask : UInt8) (rounds : Nat) : Simulator :=
      { settings := { faults := f mask }
        generator := .ofSeed 3
        staged := [.ofBytes middle, .ofBytes high]
        outbox := [high]
        stats := { roundsCompleted := rounds } }
    (∀ mask rounds, (e mask rounds).staged.Pairwise Below ∧
      (Simulator.transport.send low (e mask rounds)).1 = .ok () ∧
      (e mask rounds).staged.length = (Metadata.ofBytes low).maxLevel.toNat ∧
      low.length = 8 + 4 * 1 ∧ ∀ p ∈ (e mask rounds).staged, p.payload.length = 1) ∧
    Simulator.transport.send low (e 0 0).withoutFaults =
      (.ok (), (Simulator.transport.send low (e 0 0)).2.withoutFaults) ∧
    (Simulator.transport.send low (e 0 1)).2.stats.faultsInjected = 4 ∧
    (∃ block, (Simulator.transport.send low (e 0 1)).2.outbox = high :: block ∧
      block.Perm [low, flippedTo 0xF3, low] ∧ [low, low] <+: block) ∧
    ∃ block, (Simulator.transport.send low (e 0x0F 1)).2.outbox = high :: block ∧
      block.Perm [low, flippedTo 0x03, low] ∧ [low, low] <+: block := by
  intro high middle low flippedTo f e
  have horder : ∀ mask rounds, (e mask rounds).staged.Pairwise Below :=
    fun _ _ => List.pairwise_pair.2 (show (1 : UInt8) < 2 by decide)
  have hok : ∀ mask rounds, (Simulator.transport.send low (e mask rounds)).1 = .ok () := by
    intro mask rounds
    refine (Simulator.send_eq_ok_iff _ _).2 ⟨⟨1, rfl⟩, by decide, by decide, ?_⟩
    intro p hp
    rcases List.mem_pair.1 hp with rfl | rfl <;> decide
  have hlast : ∀ mask rounds,
      (e mask rounds).staged.length = (Metadata.ofBytes low).maxLevel.toNat := fun _ _ => rfl
  have hstaged : ∀ mask rounds, ∀ p ∈ (e mask rounds).staged, p.payload.length = 1 := by
    intro mask rounds p hp
    rcases List.mem_pair.1 hp with rfl | rfl <;> rfl
  have hround : ∀ mask rounds, _ := fun mask rounds =>
    faulty_round_exact (e mask rounds) (horder mask rounds) (hok mask rounds) (hlast mask rounds)
      rfl (hstaged mask rounds)
  obtain ⟨-, hcount, -, block, houtbox, hperm, hfront⟩ := (hround 0 1).2.1 (by decide)
  obtain ⟨-, -, -, block', houtbox', hperm', hfront'⟩ := (hround 0x0F 1).2.1 (by decide)
  have hframes : ∀ mask : UInt8, mask = 0 ∨ mask = 0x0F →
      let answers := (f mask).answersIn 0 1 [.ofBytes low, .ofBytes middle, .ofBytes high]
      ((f mask).kept answers ++ (f mask).repeated answers).map (f mask).spoiled =
        [low, flippedTo (if mask = 0 then 0xF3 else 0x03), low] := by
    rintro mask (rfl | rfl) <;> decide
  exact ⟨fun mask rounds => ⟨horder mask rounds, hok mask rounds, hlast mask rounds, rfl,
      hstaged mask rounds⟩, ((hround 0 0).1 (by decide)).1, hcount,
    ⟨block, houtbox, hframes 0 (.inl rfl) ▸ hperm, hfront ⟨0, low⟩ (by decide)⟩,
    block', houtbox', hframes 0x0F (.inr rfl) ▸ hperm', hfront' ⟨0, low⟩ (by decide)⟩

end OffloadBench.Engine
