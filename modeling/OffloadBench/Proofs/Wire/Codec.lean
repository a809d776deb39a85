import OffloadBench.Proofs.Wire.Exactness

/-! # The codec

Frames of one layout and packets whose payload fits it correspond to each other, but for the two
reserved bytes, which are written as zero and never read. Decoding takes every byte string of the
right length and no other. A frame is written in place if and only if both lengths are right, and is then
all that the buffer holds; otherwise the first wrong length is the error and the buffer is unchanged.
-/
namespace OffloadBench.Wire

theorem halfBytes_halfOf (a b : UInt8) : halfBytes (halfOf a b) = [a, b] := by
  have ha := a.toNat_lt
  have hb := b.toNat_lt
  simp only [halfBytes, toNat_halfOf, List.cons.injEq, and_true]
  constructor <;> apply UInt8.toNat_inj.1 <;> rw [UInt8.toNat_ofNat'] <;> omega

theorem wordBytes_wordOf (a b c d : UInt8) : wordBytes (wordOf a b c d) = [a, b, c, d] := by
  have ha := a.toNat_lt
  have hb := b.toNat_lt
  have hc := c.toNat_lt
  have hd := d.toNat_lt
  simp only [wordBytes, toNat_wordOf, List.cons.injEq, and_true]
  refine ⟨?_, ?_, ?_, ?_⟩ <;> apply UInt8.toNat_inj.1 <;> rw [UInt8.toNat_ofNat'] <;> omega

/-- Bytes that fall into whole words are these words. -/
theorem payloadOf_spec {n : Nat} {body : Bytes} (h : body.length = 4 * n) :
    (payloadOf body).length = n ∧ payloadBytes (payloadOf body) = body := by
  induction n generalizing body with
  | zero =>
    rw [List.length_eq_zero_iff.1 h]
    exact ⟨rfl, rfl⟩
  | succ n ih =>
    match body, h with
    | a :: b :: c :: d :: body, h =>
      have hrest : body.length = 4 * n := by
        simp only [List.length_cons] at h
        omega
      obtain ⟨hlength, hbytes⟩ := ih hrest
      refine ⟨by rw [payloadOf, List.length_cons, hlength], ?_⟩
      have hcons : payloadBytes (payloadOf (a :: b :: c :: d :: body)) =
          wordBytes (wordOf a b c d) ++ payloadBytes (payloadOf body) := rfl
      rw [hcons, wordBytes_wordOf, hbytes]
      rfl

def clearReserved (frame : Bytes) : Bytes := (frame.set 4 0).set 5 0

theorem Metadata.toBytes_ofBytes {frame : Bytes} (h : 8 ≤ frame.length) :
    (Metadata.ofBytes frame).toBytes ++ frame.drop 8 = clearReserved frame := by
  match frame, h with
  | a :: b :: c :: d :: e :: f :: g :: i :: rest, _ =>
    have hid : (Metadata.ofBytes (a :: b :: c :: d :: e :: f :: g :: i :: rest)).toBytes =
        halfBytes (halfOf a b) ++ [c, d, 0, 0, g, i] := rfl
    rw [hid, halfBytes_halfOf]
    rfl

namespace Layout

variable {layout : Layout} {m : Metadata} {payload : Payload} {frame buffer : Bytes}

theorem decode_eq_ok_iff {p : Packet} :
    layout.decode frame = .ok p ↔
      frame.length = layout.frameLength.toNat ∧
        p = ⟨Metadata.ofBytes frame, payloadOf (frame.drop 8)⟩ := by
  rw [decode]
  split
  · rename_i h
    simp [h, eq_comm]
  · rename_i h
    simp [h]

section Fits
variable (hfits : 8 + 4 * layout.elementCount.toNat < 2 ^ 64)
include hfits

theorem decode_encode (m : Metadata) (hpayload : payload.length = layout.elementCount.toNat) :
    ∃ frame, layout.encode m payload = .ok frame ∧ layout.decode frame = .ok ⟨m, payload⟩ ∧
      frame[4]? = some 0 ∧ frame[5]? = some 0 := by
  have hlength := Packet.length_toBytes ⟨m, payload⟩
  rw [hpayload, ← layout.toNat_frameLength hfits] at hlength
  exact ⟨_, encode_of_length hpayload, decode_toBytes hlength, rfl, rfl⟩

theorem encode_decode {p : Packet} (h : layout.decode frame = .ok p) :
    layout.encode p.metadata p.payload = .ok (clearReserved frame) := by
  obtain ⟨hlength, rfl⟩ := decode_eq_ok_iff.1 h
  rw [layout.toNat_frameLength hfits] at hlength
  have hbody : (frame.drop 8).length = 4 * layout.elementCount.toNat := by
    rw [List.length_drop, hlength, Nat.add_sub_cancel_left]
  obtain ⟨hcount, hbytes⟩ := payloadOf_spec hbody
  rw [encode_of_length hcount, Packet.toBytes, hbytes, Metadata.toBytes_ofBytes (by omega)]

/-- Written over a buffer of the right length, a frame leaves nothing of what the buffer held. -/
theorem write_append_writeWords (m : Metadata)
    (hpayload : payload.length = layout.elementCount.toNat)
    (hbuffer : buffer.length = layout.frameLength.toNat) :
    m.write (buffer.take 8) ++ writeWords payload (buffer.drop 8) =
      Packet.toBytes ⟨m, payload⟩ := by
  rw [layout.toNat_frameLength hfits] at hbuffer
  have hheader : (buffer.take 8).length = 8 := by
    rw [List.length_take, hbuffer]
    omega
  have hbody : (buffer.drop 8).length = 4 * payload.length := by
    rw [List.length_drop, hbuffer, hpayload, Nat.add_sub_cancel_left]
  rw [m.write_eq hheader, writeWords_eq hbody]
  rfl

theorem encodeInto_eq (m : Metadata) (payload : Payload) (buffer : Bytes) :
    layout.encodeInto m payload buffer =
      if payload.length ≠ layout.elementCount.toNat then
        (.error (.payloadLength layout.elementCount.toNat payload.length), buffer)
      else if buffer.length ≠ 8 + 4 * layout.elementCount.toNat then
        (.error (.malformed (8 + 4 * layout.elementCount.toNat) buffer.length), buffer)
      else (.ok (), Packet.toBytes ⟨m, payload⟩) := by
  rw [encodeInto]
  split
  · rfl
  · rename_i hpayload
    rw [← layout.toNat_frameLength hfits]
    split
    · rfl
    · rename_i hbuffer
      rw [write_append_writeWords hfits m (not_not.1 hpayload) (not_not.1 hbuffer)]

end Fits

/-- The codec is exact in both directions and in place, but for the reserved bytes. -/
theorem codec_exact (layout : Layout) (hfits : 8 + 4 * layout.elementCount.toNat < 2 ^ 64) :
    (∀ (m : Metadata) (payload : Payload), payload.length = layout.elementCount.toNat →
      ∃ frame, layout.encode m payload = .ok frame ∧ layout.decode frame = .ok ⟨m, payload⟩ ∧
        frame[4]? = some 0 ∧ frame[5]? = some 0) ∧
    (∀ frame : Bytes,
      ((∃ p, layout.decode frame = .ok p) ↔
        frame.length = 8 + 4 * layout.elementCount.toNat) ∧
      ∀ p, layout.decode frame = .ok p →
        layout.encode p.metadata p.payload = .ok (clearReserved frame)) ∧
    ∀ (m : Metadata) (payload : Payload) (buffer : Bytes),
      ((layout.encodeInto m payload buffer).1 = .ok () ↔
        payload.length = layout.elementCount.toNat ∧
          buffer.length = 8 + 4 * layout.elementCount.toNat) ∧
      ((layout.encodeInto m payload buffer).1 = .ok () →
        layout.encode m payload = .ok (layout.encodeInto m payload buffer).2) ∧
      ∀ e, (layout.encodeInto m payload buffer).1 = .error e →
        (layout.encodeInto m payload buffer).2 = buffer ∧
        e = if payload.length = layout.elementCount.toNat then
            .malformed (8 + 4 * layout.elementCount.toNat) buffer.length
          else .payloadLength layout.elementCount.toNat payload.length := by
  refine ⟨fun m _ => decode_encode hfits m, ?_, ?_⟩
  · intro frame
    refine ⟨?_, fun _ => encode_decode hfits⟩
    rw [← layout.toNat_frameLength hfits]
    constructor
    · rintro ⟨p, h⟩
      exact (decode_eq_ok_iff.1 h).1
    · intro h
      exact ⟨_, decode_of_length h⟩
  · intro m payload buffer
    rw [encodeInto_eq hfits]
    by_cases hpayload : payload.length = layout.elementCount.toNat
    · by_cases hbuffer : buffer.length = 8 + 4 * layout.elementCount.toNat
      · simp [hpayload, hbuffer, encode_of_length hpayload]
      · simp [hpayload, hbuffer, eq_comm]
    · simp [hpayload, eq_comm]

/-- A frame with bytes in the reserved places, decoded and encoded again, and a frame written over
it. -/
theorem codec_exact_twoWords :
    let layout : Layout := ⟨2⟩
    let frame : Bytes := [0xCD, 0xAB, 1, 5, 0xFF, 0xEE, 3, 2, 1, 0, 0, 0, 0xFF, 0xFF, 0xFF, 0xFF]
    let m : Metadata := ⟨0x1234, 1, 5, 3, 0⟩
    8 + 4 * layout.elementCount.toNat < 2 ^ 64 ∧
      (∃ p, layout.decode frame = .ok p ∧
        layout.encode p.metadata p.payload = .ok (clearReserved frame)) ∧
      layout.encode m [7, 8] = .ok (layout.encodeInto m [7, 8] frame).2 := by
  intro layout frame m
  have hfits : 8 + 4 * layout.elementCount.toNat < 2 ^ 64 := by decide
  obtain ⟨-, hdecode, hwrite⟩ := codec_exact layout hfits
  refine ⟨hfits, ?_, ?_⟩
  · obtain ⟨p, hp⟩ := (hdecode frame).1.2 rfl
    exact ⟨p, hp, (hdecode frame).2 p hp⟩
  · exact (hwrite m [7, 8] frame).2.1 ((hwrite m [7, 8] frame).1.2 ⟨rfl, rfl⟩)

end Layout

end OffloadBench.Wire
