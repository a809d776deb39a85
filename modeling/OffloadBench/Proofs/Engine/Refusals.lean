import OffloadBench.Proofs.Engine.Requests

/-! # Refusals

A frame that is sent to the engine is taken or refused as a whole, whatever came before it. It is refused
if it is no whole number of words behind the metadata, or its level exceeds the highest level that it
names, or a packet of its level is staged. The first check it fails is the reason given, and a refused
frame leaves no trace.

A frame that is taken is one more staged packet, or the last one that its round was waiting for: then the
round is complete, nothing is staged, and what was queued stays in front of what the round adds. That is
a matter of how many packets are staged; there may be more than the frame asks for, if another frame
asked for more, and then the round stays open.
-/
namespace OffloadBench.Engine
open Device Wire

/-- Why the engine refuses a frame: of the checks, in their order, the first that it fails. -/
inductive FirstRefusal (e : Simulator) (frame : Bytes) : Refusal → Prop
  | unparsable (h : ¬ ∃ elements, frame.length = 8 + 4 * elements) :
    FirstRefusal e frame (.unparsable frame.length)
  | levelTooHigh (hlength : ∃ elements, frame.length = 8 + 4 * elements)
    (h : (Metadata.ofBytes frame).maxLevel < (Metadata.ofBytes frame).level) :
    FirstRefusal e frame
      (.levelTooHigh (Metadata.ofBytes frame).level (Metadata.ofBytes frame).maxLevel)
  | alreadyStaged (hlength : ∃ elements, frame.length = 8 + 4 * elements)
    (hlevel : (Metadata.ofBytes frame).level ≤ (Metadata.ofBytes frame).maxLevel)
    (h : ∃ p ∈ e.staged, p.metadata.level = (Metadata.ofBytes frame).level) :
    FirstRefusal e frame (.alreadyStaged (Metadata.ofBytes frame).level)

theorem layoutOfLength?_eq_none_iff {length : Nat} :
    layoutOfLength? length = none ↔ ¬ ∃ elements, length = 8 + 4 * elements := by
  unfold layoutOfLength?
  split
  · rename_i h
    simp only [true_iff]
    rintro ⟨elements, rfl⟩
    omega
  · rename_i h
    simp only [reduceCtorEq, false_iff, not_not]
    exact ⟨(length - 8) / 4, by omega⟩

theorem not_exists_elements_iff {length : Nat} :
    (¬ ∃ elements, length = 8 + 4 * elements) ↔ length < 8 ∨ ¬ 4 ∣ length - 8 := by
  constructor
  · intro h
    by_contra hwhole
    push Not at hwhole
    obtain ⟨hle, elements, helements⟩ := hwhole
    exact h ⟨elements, by omega⟩
  · rintro h ⟨elements, rfl⟩
    rw [Nat.add_sub_cancel_left] at h
    rcases h with h | h
    · omega
    · exact h (Nat.dvd_mul_right 4 elements)

namespace Simulator

variable {e : Simulator} {frame : Bytes}

theorem inspect_of_length {elements : Nat} (hlength : frame.length = 8 + 4 * elements)
    (hfits : frame.length < 2 ^ 64) :
    e.inspect frame =
      if (Metadata.ofBytes frame).maxLevel < (Metadata.ofBytes frame).level then
        .error (.levelTooHigh (Metadata.ofBytes frame).level (Metadata.ofBytes frame).maxLevel)
      else if e.isStaged (Metadata.ofBytes frame).level then
        .error (.alreadyStaged (Metadata.ofBytes frame).level)
      else .ok (⟨UInt64.ofNat elements⟩, .ofBytes frame) := by
  rw [inspect, layoutOfLength?_eq_some hlength]
  dsimp only
  rw [decode_eq_ofBytes hlength hfits]
  rfl

theorem inspect_eq_error_iff (hfits : frame.length < 2 ^ 64) {refusal : Refusal} :
    e.inspect frame = .error refusal ↔ FirstRefusal e frame refusal := by
  by_cases hlength : ∃ elements, frame.length = 8 + 4 * elements
  · have hlength' := hlength
    obtain ⟨elements, helements⟩ := hlength'
    rw [inspect_of_length helements hfits]
    constructor
    · intro h
      split at h
      · rename_i hlevel
        cases h
        exact .levelTooHigh hlength hlevel
      · rename_i hlevel
        split at h
        · rename_i hstaged
          cases h
          exact .alreadyStaged hlength (UInt8.not_lt.1 hlevel) (isStaged_iff.1 hstaged)
        · cases h
    · intro h
      cases h with
      | unparsable h => exact absurd hlength h
      | levelTooHigh _ h => rw [if_pos h]
      | alreadyStaged _ hlevel h => rw [if_neg (UInt8.not_lt.2 hlevel), if_pos (isStaged_iff.2 h)]
  · have hinspect : e.inspect frame = .error (.unparsable frame.length) := by
      rw [inspect, layoutOfLength?_eq_none_iff.2 hlength]
    rw [hinspect]
    constructor
    · intro h
      cases h
      exact .unparsable hlength
    · intro h
      cases h with
      | unparsable => rfl
      | levelTooHigh h => exact absurd h hlength
      | alreadyStaged h => exact absurd h hlength

theorem send_eq_error_iff (hfits : frame.length < 2 ^ 64) {error : TransportError} :
    (transport.send frame e).1 = .error error ↔
      ∃ refusal, FirstRefusal e frame refusal ∧ error = .sendFailed refusal.message := by
  simp only [← inspect_eq_error_iff hfits]
  cases hinspect : e.inspect frame with
  | error refusal => simp [send_of_inspect_error hinspect, eq_comm]
  | ok inspected =>
    obtain ⟨layout, p⟩ := inspected
    simp [send_of_inspect_ok hinspect]

theorem exists_firstRefusal_iff :
    (∃ refusal, FirstRefusal e frame refusal) ↔
      frame.length < 8 ∨ ¬ 4 ∣ frame.length - 8 ∨
        (Metadata.ofBytes frame).maxLevel < (Metadata.ofBytes frame).level ∨
        ∃ p ∈ e.staged, p.metadata.level = (Metadata.ofBytes frame).level := by
  rw [← or_assoc, ← not_exists_elements_iff]
  constructor
  · rintro ⟨refusal, h⟩
    cases h with
    | unparsable h => exact .inl h
    | levelTooHigh _ h => exact .inr (.inl h)
    | alreadyStaged _ _ h => exact .inr (.inr h)
  · intro h
    by_cases hlength : ∃ elements, frame.length = 8 + 4 * elements
    · by_cases hlevel : (Metadata.ofBytes frame).maxLevel < (Metadata.ofBytes frame).level
      · exact ⟨_, .levelTooHigh hlength hlevel⟩
      · have hstaged := (h.resolve_left (not_not_intro hlength)).resolve_left hlevel
        exact ⟨_, .alreadyStaged hlength (UInt8.not_lt.1 hlevel) hstaged⟩
    · exact ⟨_, .unparsable hlength⟩

theorem send_of_error {error : TransportError}
    (h : (transport.send frame e).1 = .error error) : (transport.send frame e).2 = e := by
  cases hinspect : e.inspect frame with
  | error refusal => rw [send_of_inspect_error hinspect]
  | ok inspected =>
    obtain ⟨layout, p⟩ := inspected
    rw [send_of_inspect_ok hinspect] at h
    cases h

theorem send_of_ok (h : (transport.send frame e).1 = .ok ()) :
    ∃ layout, e.inspect frame = .ok (layout, .ofBytes frame) ∧
      (transport.send frame e).2 = e.stage layout (.ofBytes frame) := by
  cases hinspect : e.inspect frame with
  | error refusal =>
    rw [send_of_inspect_error hinspect] at h
    cases h
  | ok inspected =>
    obtain ⟨layout, p⟩ := inspected
    obtain ⟨-, hdecode, -⟩ := inspect_eq_ok_iff.1 hinspect
    obtain rfl : p = .ofBytes frame := (Layout.decode_eq_ok_iff.1 hdecode).2
    exact ⟨layout, rfl, by rw [send_of_inspect_ok hinspect]⟩

/-- What a complete round leaves behind, whatever it was answered with. -/
theorem completeRound_spec (e : Simulator) (layout : Layout) :
    ∃ block, (e.completeRound layout).outbox = e.outbox ++ block ∧
      (e.completeRound layout).staged = [] ∧ (e.completeRound layout).settings = e.settings ∧
      (e.completeRound layout).stats.framesReceived = e.stats.framesReceived ∧
      (e.completeRound layout).stats.framesEmitted = e.stats.framesEmitted + block.length ∧
      (e.completeRound layout).stats.roundsCompleted = e.stats.roundsCompleted + 1 :=
  ⟨_, rfl, rfl, rfl, rfl, by simp [completeRound], rfl⟩

theorem ordered_perform (r : Request) (h : e.staged.Pairwise Below) :
    (r.perform transport e).staged.Pairwise Below := by
  obtain hsame | ⟨_, _, -, htake⟩ | ⟨_, _, _, hinspect, hstage⟩ := e.perform_cases r
  · rwa [hsame]
  · rwa [htake]
  · obtain ⟨-, -, -, hfresh⟩ := inspect_eq_ok_iff.1 hinspect
    rw [hstage, stage_eq]
    split
    · exact List.Pairwise.nil
    · exact insertByLevel_pairwise h hfresh

theorem ordered_performAll (settings : EngineSettings) (requests : List Request) :
    (performAll transport requests (ofSettings settings)).staged.Pairwise Below := by
  induction requests using List.reverseRecOn with
  | nil => exact List.Pairwise.nil
  | append_singleton requests r ih =>
    rw [performAll_append_singleton]
    exact ordered_perform r ih

end Simulator

/-- A send succeeds or fails as a whole, in any state that requests lead to. -/
theorem send_all_or_nothing (settings : EngineSettings) (requests : List Request) (frame : Bytes)
    (hfits : frame.length < 2 ^ 64) :
    let e := performAll Simulator.transport requests (.ofSettings settings)
    let m := Metadata.ofBytes frame
    let (outcome, e') := Simulator.transport.send frame e
    ((∃ error, outcome = .error error) ↔ frame.length < 8 ∨ ¬ 4 ∣ frame.length - 8 ∨
      m.maxLevel < m.level ∨ ∃ p ∈ e.staged, p.metadata.level = m.level) ∧
    (∀ error, outcome = .error error ↔
      ∃ refusal, FirstRefusal e frame refusal ∧ error = .sendFailed refusal.message) ∧
    (∀ error, outcome = .error error → e' = e) ∧
    (outcome = .ok () →
      e'.stats.framesReceived = e.stats.framesReceived + 1 ∧ e.outbox <+: e'.outbox ∧
      (e.staged.length ≠ m.maxLevel.toNat →
        e'.staged.Perm (.ofBytes frame :: e.staged) ∧ e'.staged.Pairwise Below ∧
        e' = { e with
          staged := e'.staged
          stats := { e.stats with framesReceived := e.stats.framesReceived + 1 } }) ∧
      (e.staged.length = m.maxLevel.toNat →
        e'.staged = [] ∧ e'.settings = e.settings ∧
        e'.stats.roundsCompleted = e.stats.roundsCompleted + 1 ∧
        ∃ block, e'.outbox = e.outbox ++ block ∧
          e'.stats.framesEmitted = e.stats.framesEmitted + block.length)) := by
  intro e m
  refine ⟨?_, fun _ => Simulator.send_eq_error_iff hfits, fun _ => Simulator.send_of_error, ?_⟩
  · have hrefused : (∃ error, (Simulator.transport.send frame e).1 = .error error) ↔
        ∃ refusal, FirstRefusal e frame refusal := by
      simp only [Simulator.send_eq_error_iff hfits]
      exact ⟨fun ⟨_, refusal, h, _⟩ => ⟨refusal, h⟩, fun ⟨refusal, h⟩ => ⟨_, refusal, h, rfl⟩⟩
    exact hrefused.trans Simulator.exists_firstRefusal_iff
  · intro hok
    obtain ⟨layout, hinspect, hstage⟩ := Simulator.send_of_ok hok
    obtain ⟨-, -, -, hfresh⟩ := Simulator.inspect_eq_ok_iff.1 hinspect
    rw [hstage]
    by_cases hfull : e.staged.length = m.maxLevel.toNat
    · obtain ⟨block, houtbox, hstaged, hsettings, hreceived, hemitted, hcompleted⟩ :=
        Simulator.completeRound_spec (e.took (.ofBytes frame)) layout
      rw [Simulator.stage_of_full hfull]
      exact ⟨hreceived, ⟨block, houtbox.symm⟩, fun hopen => absurd hfull hopen,
        fun _ => ⟨hstaged, hsettings, hcompleted, block, houtbox, hemitted⟩⟩
    · rw [Simulator.stage_of_open hfull]
      have horder := Simulator.ordered_performAll settings requests
      exact ⟨rfl, List.prefix_rfl, fun _ => ⟨insertByLevel_perm _ _,
        insertByLevel_pairwise horder hfresh, rfl⟩, fun h => absurd h hfull⟩

/-- The higher of two levels is staged. Sent once more it is refused, and the lower one completes the
round. -/
theorem send_all_or_nothing_twoLevels :
    let high : Bytes := [0xCD, 0xAB, 1, 5, 0, 0, 1, 1, 5, 0, 0, 0]
    let low : Bytes := [0xCD, 0xAB, 1, 5, 0, 0, 1, 0, 7, 0, 0, 0]
    let e := performAll Simulator.transport [.send high] (.ofSettings {})
    high.length < 2 ^ 64 ∧ low.length < 2 ^ 64 ∧
      (∃ error, (Simulator.transport.send high e).1 = .error error) ∧
      (Simulator.transport.send high e).2 = e ∧
      (Simulator.transport.send low e).1 = .ok () ∧
      (Simulator.transport.send low e).2.staged = [] := by
  intro high low e
  have hhigh : high.length < 2 ^ 64 := by decide
  have hlow : low.length < 2 ^ 64 := by decide
  have hagain := send_all_or_nothing {} [.send high] high hhigh
  have hlast := send_all_or_nothing {} [.send high] low hlow
  have hstaged : ∃ p ∈ e.staged, p.metadata.level = (Metadata.ofBytes high).level := by decide
  have hok : (Simulator.transport.send low e).1 = .ok () := by decide
  obtain ⟨error, herror⟩ := hagain.1.2 (.inr (.inr (.inr hstaged)))
  exact ⟨hhigh, hlow, ⟨error, herror⟩, hagain.2.2.1 error herror, hok,
    ((hlast.2.2.2 hok).2.2.2 (by decide)).1⟩

end OffloadBench.Engine
