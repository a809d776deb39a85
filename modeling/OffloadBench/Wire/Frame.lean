import OffloadBench.Wire.Bytes
import OffloadBench.Text.Numeral

/-! # Frames

A frame is eight bytes of metadata and then the payload of the run's layout: the collective
identifier, the collective type, the operation, two reserved bytes that are written as zero, the
highest level and the level. Lengths are 64-bit words and wrap.
-/
namespace OffloadBench.Wire

def metadataLength : UInt64 := 8

def wordLength : UInt64 := 4

structure Metadata where
  collectiveId : UInt16
  collectiveType : UInt8
  opCode : UInt8
  maxLevel : UInt8
  level : UInt8
  deriving DecidableEq, Repr

namespace Metadata

def withLevel (m : Metadata) (level : UInt8) : Metadata := { m with level := level }

def toBytes (m : Metadata) : Bytes :=
  halfBytes m.collectiveId ++ [m.collectiveType, m.opCode, 0, 0, m.maxLevel, m.level]

/-- Writes every field to its place in a header; a place that the header does not have is passed
over. -/
def write (m : Metadata) (header : Bytes) : Bytes :=
  let header := header.set 0 (UInt8.ofNat m.collectiveId.toNat)
  let header := header.set 1 (UInt8.ofNat (m.collectiveId.toNat / 256))
  let header := (header.set 2 m.collectiveType).set 3 m.opCode
  let header := (header.set 4 0).set 5 0
  (header.set 6 m.maxLevel).set 7 m.level

/-- The metadata at the head of a frame. The reserved bytes are not looked at. -/
def ofBytes (frame : Bytes) : Metadata where
  collectiveId := halfOf (frame.getD 0 0) (frame.getD 1 0)
  collectiveType := frame.getD 2 0
  opCode := frame.getD 3 0
  maxLevel := frame.getD 6 0
  level := frame.getD 7 0

theorem length_toBytes (m : Metadata) : m.toBytes.length = 8 := rfl

theorem write_eq (m : Metadata) {header : Bytes} (h : header.length = 8) :
    m.write header = m.toBytes := by
  match header, h with
  | [_, _, _, _, _, _, _, _], _ => rfl

theorem ofBytes_toBytes (m : Metadata) (rest : Bytes) : ofBytes (m.toBytes ++ rest) = m := by
  have h := halfOf_halfBytes m.collectiveId
  cases m
  exact congrArg (fun id => (⟨id, _, _, _, _⟩ : Metadata)) h

end Metadata

structure Packet where
  metadata : Metadata
  payload : Payload
  deriving DecidableEq, Repr

def Packet.toBytes (p : Packet) : Bytes := p.metadata.toBytes ++ payloadBytes p.payload

inductive CodecError
  | malformed (expected actual : Nat)
  | payloadLength (expected actual : Nat)
  deriving DecidableEq, Repr

def CodecError.message : CodecError → String
  | .malformed expected actual =>
    s!"malformed packet: expected {expected} bytes, got {actual}"
  | .payloadLength expected actual =>
    s!"payload has {actual} elements, layout requires {expected}"

/-- The one geometry that all frames of a run share. -/
structure Layout where
  elementCount : UInt64
  deriving DecidableEq, Repr

namespace Layout

def payloadLength (layout : Layout) : UInt64 := layout.elementCount * wordLength

def frameLength (layout : Layout) : UInt64 := metadataLength + layout.payloadLength

def encode (layout : Layout) (m : Metadata) (payload : Payload) : Except CodecError Bytes :=
  if payload.length = layout.elementCount.toNat then .ok (Packet.toBytes ⟨m, payload⟩)
  else .error (.payloadLength layout.elementCount.toNat payload.length)

/-- Writes a frame in place over a buffer of exactly its length, and leaves any other buffer as it
was. -/
def encodeInto (layout : Layout) (m : Metadata) (payload : Payload) (buffer : Bytes) :
    Except CodecError Unit × Bytes :=
  if payload.length ≠ layout.elementCount.toNat then
    (.error (.payloadLength layout.elementCount.toNat payload.length), buffer)
  else if buffer.length ≠ layout.frameLength.toNat then
    (.error (.malformed layout.frameLength.toNat buffer.length), buffer)
  else (.ok (), m.write (buffer.take 8) ++ writeWords payload (buffer.drop 8))

def decode (layout : Layout) (frame : Bytes) : Except CodecError Packet :=
  if frame.length = layout.frameLength.toNat then
    .ok ⟨Metadata.ofBytes frame, payloadOf (frame.drop 8)⟩
  else .error (.malformed layout.frameLength.toNat frame.length)

end Layout

end OffloadBench.Wire
