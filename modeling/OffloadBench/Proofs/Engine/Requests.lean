import OffloadBench.Proofs.Engine.Answers
import OffloadBench.Proofs.Run.Course
import OffloadBench.Proofs.Wire.Codec

/-! # Requests to an engine

What comes of one request, in any state: which frames the engine takes, when a wait is in vain, and
what is left on record.
-/
namespace OffloadBench.Wire

def Packet.ofBytes (frame : Bytes) : Packet :=
  ⟨Metadata.ofBytes frame, payloadOf (frame.drop 8)⟩

/-- The frame names the given highest level and is as long as frames of so many elements are. -/
structure HasGeometry (maxLevel : UInt8) (elements : Nat) (frame : Bytes) : Prop where
  maxLevel : (Metadata.ofBytes frame).maxLevel = maxLevel
  length : frame.length = 8 + 4 * elements

theorem HasGeometry.length_payload {maxLevel : UInt8} {elements : Nat} {frame : Bytes}
    (h : HasGeometry maxLevel elements frame) :
    (Packet.ofBytes frame).payload.length = elements := by
  have hbody : (frame.drop 8).length = 4 * elements := by
    rw [List.length_drop, h.length, Nat.add_sub_cancel_left]
  exact (payloadOf_spec hbody).1

end OffloadBench.Wire

namespace OffloadBench.Device
open Wire

def Exchange.take? : Exchange → Option (Nat × Except TransportError Delivery)
  | .received _ _ (.error .timeout) => none
  | .received capacity _ outcome => some (capacity, outcome)
  | _ => none

namespace Transcript

variable (log : Transcript)

def packets : List Packet := log.frames.map Packet.ofBytes

def takes : List (Nat × Except TransportError Delivery) := log.toList.filterMap Exchange.take?

theorem frames_push (x : Exchange) : frames (log.push x) = log.frames ++ x.frame?.toList := by
  rw [frames_eq, frames_eq, Array.toList_push, List.filterMap_append]
  cases hx : x.frame? <;> simp [hx]

theorem takes_push (x : Exchange) : takes (log.push x) = log.takes ++ x.take?.toList := by
  rw [takes, takes, Array.toList_push, List.filterMap_append]
  cases hx : x.take? <;> simp [hx]

end Transcript

variable {σ : Type}

def Request.perform (t : Transport σ) : Request → σ → σ
  | .device, s => (t.device s).2
  | .send frame, s => (t.send frame s).2
  | .wait capacity timeout, s => (t.receive capacity timeout s).2

def performAll (t : Transport σ) (requests : List Request) (s : σ) : σ :=
  requests.foldl (fun s r => r.perform t s) s

theorem performAll_append_singleton (t : Transport σ) (requests : List Request) (r : Request)
    (s : σ) : performAll t (requests ++ [r]) s = r.perform t (performAll t requests s) := by
  rw [performAll, List.foldl_append]
  rfl

end OffloadBench.Device

namespace OffloadBench.Engine
open Device Wire

theorem take?_handOver (capacity : Nat) (timeout : Option UInt64) (frame : Bytes) :
    (Exchange.received capacity timeout (handOver capacity frame)).take? =
      some (capacity, handOver capacity frame) := by
  unfold handOver
  split <;> rfl

section Layout
variable {frame : Bytes} {layout : Layout} {elements : Nat}

theorem layoutOfLength?_eq_some (hlength : frame.length = 8 + 4 * elements) :
    layoutOfLength? frame.length = some ⟨UInt64.ofNat elements⟩ := by
  rw [layoutOfLength?, hlength, Nat.add_sub_cancel_left, if_neg (by omega),
    Nat.mul_div_cancel_left _ (by omega)]

theorem length_of_layoutOfLength? (h : layoutOfLength? frame.length = some layout) :
    ∃ elements, frame.length = 8 + 4 * elements := by
  unfold layoutOfLength? at h
  split at h
  · cases h
  · exact ⟨(frame.length - 8) / 4, by omega⟩

theorem toNat_ofNat_elements (hfits : 8 + 4 * elements < 2 ^ 64) :
    (UInt64.ofNat elements).toNat = elements := by
  have hlt : elements < 2 ^ 64 := by omega
  exact UInt64.toNat_ofNat_of_lt' hlt

theorem toNat_elementCount {p : Packet} (hlength : frame.length = 8 + 4 * elements)
    (hlayout : layoutOfLength? frame.length = some layout) (hdecode : layout.decode frame = .ok p) :
    layout.elementCount.toNat = elements := by
  have hfits : 8 + 4 * elements < 2 ^ 64 := by
    rw [← hlength, (Layout.decode_eq_ok_iff.1 hdecode).1]
    exact UInt64.toNat_lt _
  rw [layoutOfLength?_eq_some hlength] at hlayout
  cases hlayout
  exact toNat_ofNat_elements hfits

/-- A frame of whole words is decoded with the layout of its length, if that length fits a word. -/
theorem decode_eq_ofBytes (hlength : frame.length = 8 + 4 * elements)
    (hfits : frame.length < 2 ^ 64) :
    Layout.decode ⟨UInt64.ofNat elements⟩ frame = .ok (.ofBytes frame) := by
  have hcount := toNat_ofNat_elements (hlength ▸ hfits)
  have hlength' : frame.length = (Layout.frameLength ⟨UInt64.ofNat elements⟩).toNat := by
    have hfits' : 8 + 4 * (UInt64.ofNat elements).toNat < 2 ^ 64 := by omega
    rw [Layout.toNat_frameLength ⟨UInt64.ofNat elements⟩ hfits', hcount, hlength]
  exact Layout.decode_eq_ok_iff.2 ⟨hlength', rfl⟩

end Layout

namespace Simulator

variable {e : Simulator} {frame : Bytes}

theorem isStaged_iff {level : UInt8} :
    e.isStaged level = true ↔ ∃ q ∈ e.staged, q.metadata.level = level := by
  simp [isStaged]

/-- All that the engine looks at before it stages a packet. -/
theorem inspect_eq_ok_iff {layout : Layout} {p : Packet} :
    e.inspect frame = .ok (layout, p) ↔
      layoutOfLength? frame.length = some layout ∧ layout.decode frame = .ok p ∧
        p.metadata.level ≤ p.metadata.maxLevel ∧
        ∀ q ∈ e.staged, q.metadata.level ≠ p.metadata.level := by
  constructor
  · intro h
    unfold inspect at h
    split at h
    · cases h
    rename_i layout' hlayout
    split at h
    · cases h
    rename_i q hdecode
    split at h
    · cases h
    rename_i hlevel
    split at h
    · cases h
    rename_i hfresh
    cases h
    refine ⟨hlayout, hdecode, UInt8.not_lt.1 hlevel, ?_⟩
    intro q hq heq
    exact hfresh (isStaged_iff.2 ⟨q, hq, heq⟩)
  · rintro ⟨hlayout, hdecode, hlevel, hfresh⟩
    have hnot : ¬ e.isStaged p.metadata.level = true := by
      rw [isStaged_iff]
      rintro ⟨q, hq, heq⟩
      exact hfresh q hq heq
    rw [inspect, hlayout]
    dsimp only
    rw [hdecode]
    dsimp only
    rw [if_neg (UInt8.not_lt.2 hlevel), if_neg hnot]

theorem send_of_inspect_ok {layout : Layout} {p : Packet}
    (h : e.inspect frame = .ok (layout, p)) :
    transport.send frame e = (.ok (), e.stage layout p) := by
  simp only [transport, send, h]

theorem send_of_inspect_error {refusal : Refusal} (h : e.inspect frame = .error refusal) :
    transport.send frame e = (.error (.sendFailed refusal.message), e) := by
  simp only [transport, send, h]

theorem send_eq_stage {elements : Nat} (hlength : frame.length = 8 + 4 * elements)
    (hfits : frame.length < 2 ^ 64)
    (hlevel : (Packet.ofBytes frame).metadata.level ≤ (Packet.ofBytes frame).metadata.maxLevel)
    (hfresh : ∀ q ∈ e.staged, q.metadata.level ≠ (Packet.ofBytes frame).metadata.level) :
    transport.send frame e =
      (.ok (), e.stage ⟨UInt64.ofNat elements⟩ (.ofBytes frame)) :=
  send_of_inspect_ok (inspect_eq_ok_iff.2
    ⟨layoutOfLength?_eq_some hlength, decode_eq_ofBytes hlength hfits, hlevel, hfresh⟩)

/-- The engine takes the frames of whole packets whose level is in range and not yet staged. -/
theorem send_eq_ok_iff (e : Simulator) (frame : Bytes) :
    (transport.send frame e).1 = .ok () ↔
      (∃ n, frame.length = 8 + 4 * n) ∧ frame.length < 2 ^ 64 ∧
        (Packet.ofBytes frame).metadata.level ≤ (Packet.ofBytes frame).metadata.maxLevel ∧
        ∀ q ∈ e.staged, q.metadata.level ≠ (Packet.ofBytes frame).metadata.level := by
  constructor
  · intro h
    cases hinspect : e.inspect frame with
    | error refusal =>
      rw [send_of_inspect_error hinspect] at h
      cases h
    | ok inspected =>
      obtain ⟨layout, p⟩ := inspected
      obtain ⟨hlayout, hdecode, hlevel, hfresh⟩ := inspect_eq_ok_iff.1 hinspect
      obtain ⟨hlength, rfl⟩ := Layout.decode_eq_ok_iff.1 hdecode
      exact ⟨length_of_layoutOfLength? hlayout, hlength ▸ UInt64.toNat_lt _, hlevel, hfresh⟩
  · rintro ⟨⟨n, hn⟩, hfits, hlevel, hfresh⟩
    rw [send_eq_stage hn hfits hlevel hfresh]

/-- A request leaves the engine as it is, takes a frame off its outbox, or stages a packet. -/
theorem perform_cases (e : Simulator) (r : Request) :
    r.perform transport e = e ∨
      (∃ frame rest, e.outbox = frame :: rest ∧
        r.perform transport e = { e with outbox := rest }) ∨
      ∃ frame layout p, e.inspect frame = .ok (layout, p) ∧
        r.perform transport e = e.stage layout p := by
  cases r with
  | device => exact .inl rfl
  | wait capacity timeout =>
    cases houtbox : e.outbox with
    | nil =>
      rw [Request.perform, receive_of_empty capacity timeout houtbox]
      exact .inl rfl
    | cons frame rest =>
      rw [Request.perform, receive_of_cons capacity timeout houtbox]
      exact .inr (.inl ⟨frame, rest, rfl, rfl⟩)
  | send frame =>
    cases hinspect : e.inspect frame with
    | error refusal =>
      rw [Request.perform, send_of_inspect_error hinspect]
      exact .inl rfl
    | ok inspected =>
      obtain ⟨layout, p⟩ := inspected
      rw [Request.perform, send_of_inspect_ok hinspect]
      exact .inr (.inr ⟨frame, layout, p, hinspect, rfl⟩)

end Simulator

end OffloadBench.Engine
