import Mathlib.Algebra.Ring.Nat
import OffloadBench.Wire.Mismatch

/-! # Exactness of frames

A frame holds its packet and nothing else: lengths are what the layout says as long as they do not
wrap, two packets never share a frame, and a comparison of two frames of one length finds nothing
only if they are the same.
-/
namespace OffloadBench.Wire

theorem Layout.toNat_frameLength (layout : Layout)
    (h : 8 + 4 * layout.elementCount.toNat < 2 ^ 64) :
    layout.frameLength.toNat = 8 + 4 * layout.elementCount.toNat := by
  simp only [Layout.frameLength, Layout.payloadLength, UInt64.toNat_add, UInt64.toNat_mul]
  change (8 + layout.elementCount.toNat * 4 % 2 ^ 64) % 2 ^ 64 = _
  omega

namespace Packet

theorem length_toBytes (p : Packet) : p.toBytes.length = 8 + 4 * p.payload.length := by
  rw [toBytes, List.length_append, Metadata.length_toBytes, length_payloadBytes]

theorem drop_toBytes (p : Packet) : p.toBytes.drop 8 = payloadBytes p.payload :=
  List.drop_left' p.metadata.length_toBytes

theorem ofBytes_toBytes (p : Packet) : Metadata.ofBytes p.toBytes = p.metadata :=
  p.metadata.ofBytes_toBytes _

theorem payloadOf_drop_toBytes (p : Packet) : payloadOf (p.toBytes.drop 8) = p.payload := by
  rw [drop_toBytes, payloadOf_payloadBytes]

theorem toBytes_injective {p q : Packet} (h : p.toBytes = q.toBytes) : p = q := by
  have hm : p.metadata = q.metadata := by rw [← p.ofBytes_toBytes, h, q.ofBytes_toBytes]
  have hp : p.payload = q.payload := by
    rw [← p.payloadOf_drop_toBytes, h, q.payloadOf_drop_toBytes]
  cases p
  cases q
  cases hm
  cases hp
  rfl

end Packet

theorem level_ofBytes (frame : Bytes) : (Metadata.ofBytes frame).level = frame.getD 7 0 := rfl

namespace Layout

theorem encode_of_length {layout : Layout} {m : Metadata} {payload : Payload}
    (h : payload.length = layout.elementCount.toNat) :
    layout.encode m payload = .ok (Packet.toBytes ⟨m, payload⟩) := if_pos h

theorem decode_of_length {layout : Layout} {frame : Bytes}
    (h : frame.length = layout.frameLength.toNat) :
    layout.decode frame = .ok ⟨Metadata.ofBytes frame, payloadOf (frame.drop 8)⟩ := if_pos h

theorem decode_toBytes {layout : Layout} {p : Packet}
    (h : p.toBytes.length = layout.frameLength.toNat) : layout.decode p.toBytes = .ok p := by
  rw [decode_of_length h, p.ofBytes_toBytes, p.payloadOf_drop_toBytes]

end Layout

theorem firstDifference_eq_none {expected actual : Bytes} (offset : Nat)
    (hlength : expected.length = actual.length) :
    firstDifference offset expected actual = none ↔ expected = actual := by
  induction expected generalizing offset actual with
  | nil =>
    cases actual with
    | nil => simp [firstDifference]
    | cons a actual => simp at hlength
  | cons e expected ih =>
    cases actual with
    | nil => simp at hlength
    | cons a actual =>
      have hrest := ih (offset + 1) (Nat.succ.inj hlength)
      by_cases h : e = a
      · simp [firstDifference, h, hrest]
      · simp [firstDifference, h]

theorem firstDifference_set {frame : Bytes} {i : Nat} {old new : UInt8} (offset : Nat)
    (hold : frame[i]? = some old) (hne : old ≠ new) :
    firstDifference offset frame (frame.set i new) = some (offset + i, old, new) := by
  induction frame generalizing i offset with
  | nil => simp at hold
  | cons byte rest ih =>
    cases i with
    | zero =>
      cases hold
      simp [firstDifference, hne]
    | succ i =>
      simp only [List.getElem?_cons_succ] at hold
      simp only [List.set_cons_succ, firstDifference, ↓reduceIte]
      rw [ih (offset + 1) hold]
      congr 2
      omega

/-- Bytes that both strings start with are passed over. -/
theorem firstDifference_append (shared expected actual : Bytes) (offset : Nat) :
    firstDifference offset (shared ++ expected) (shared ++ actual) =
      firstDifference (offset + shared.length) expected actual := by
  induction shared generalizing offset with
  | nil => rfl
  | cons byte shared ih =>
    rw [List.cons_append, List.cons_append, firstDifference, if_pos rfl, ih, List.length_cons,
      Nat.add_assoc, Nat.add_comm 1]

theorem firstDifference_bounds {expected actual : Bytes} {offset i : Nat} {e a : UInt8}
    (h : firstDifference offset expected actual = some (i, e, a)) :
    offset ≤ i ∧ i < offset + expected.length := by
  induction expected generalizing offset actual with
  | nil => simp [firstDifference] at h
  | cons b expected ih =>
    rw [List.length_cons]
    cases actual with
    | nil => simp [firstDifference] at h
    | cons b' actual =>
      rw [firstDifference] at h
      split at h
      · obtain ⟨hle, hlt⟩ := ih h
        omega
      · cases h
        omega

theorem firstMismatch_eq_none {expected actual : Bytes}
    (hlength : expected.length = actual.length) :
    firstMismatch expected actual = none ↔ expected = actual := by
  rw [firstMismatch, Option.map_eq_none_iff, firstDifference_eq_none 0 hlength]

def Region.InPayload (region : Region) (elements : Nat) : Prop :=
  ∃ element byte e a, region = .payload element byte e a ∧ element < elements ∧ byte < 4

/-- Frames of one metadata and of different payloads differ first in an element of the payload. -/
theorem firstMismatch_of_payload_ne (m : Metadata) {expected actual : Payload}
    (hlength : expected.length = actual.length) (hne : expected ≠ actual) :
    ∃ mismatch,
      firstMismatch (Packet.toBytes ⟨m, expected⟩) (Packet.toBytes ⟨m, actual⟩) = some mismatch ∧
        mismatch.region.InPayload expected.length := by
  have hframes : (Packet.toBytes ⟨m, expected⟩).length = (Packet.toBytes ⟨m, actual⟩).length := by
    rw [Packet.length_toBytes, Packet.length_toBytes, hlength]
  have hdifferent : Packet.toBytes ⟨m, expected⟩ ≠ Packet.toBytes ⟨m, actual⟩ :=
    fun heq => hne (congrArg Packet.payload (Packet.toBytes_injective heq))
  rw [Ne, ← firstDifference_eq_none 0 hframes] at hdifferent
  obtain ⟨⟨i, e, a⟩, hfirst⟩ := Option.ne_none_iff_exists'.1 hdifferent
  have hskip := firstDifference_append m.toBytes (payloadBytes expected) (payloadBytes actual) 0
  rw [Nat.zero_add, m.length_toBytes] at hskip
  obtain ⟨hle, hlt⟩ := firstDifference_bounds (hskip.symm.trans hfirst)
  rw [length_payloadBytes] at hlt
  refine ⟨⟨i, e, a, .ofOffset (Packet.toBytes ⟨m, expected⟩) (Packet.toBytes ⟨m, actual⟩) i⟩, ?_,
    _, _, _, _, if_neg (Nat.not_lt.2 hle), ?_, Nat.mod_lt _ (by omega)⟩
  · rw [firstMismatch, hfirst]
    rfl
  · omega

theorem firstMismatch_set {frame : Bytes} {i : Nat} {old new : UInt8}
    (hold : frame[i]? = some old) (hne : old ≠ new) :
    ∃ m, firstMismatch frame (frame.set i new) = some m ∧ m.offset = i := by
  rw [firstMismatch, firstDifference_set 0 hold hne]
  exact ⟨_, rfl, Nat.zero_add i⟩

end OffloadBench.Wire
