import OffloadBench.Device.Identifier
import OffloadBench.Wire.Bytes

/-! # Transports

A transport is anything that can be asked for a device's identifier, be handed a frame, and be
waited on for one. It is a machine over a state of its own: each request gives an outcome and the
next state. Nothing is assumed about it, so a run has to stand any transport.
-/
namespace OffloadBench.Device
open Wire

inductive FailureKind
  | wouldBlock
  | timedOut
  | connectionReset
  | connectionRefused
  | interrupted
  | unexpectedEnd
  | other
  deriving DecidableEq, Repr

structure SystemFailure where
  kind : FailureKind
  reason : String
  deriving DecidableEq, Repr

inductive TransportError
  | closed
  | timeout
  | sendFailed (reason : String)
  | oversized (length capacity : Nat)
  | system (failure : SystemFailure)
  deriving DecidableEq, Repr

namespace TransportError

/-- An expired wait is a timeout, under either of the names that systems give it. -/
def ofReceive (failure : SystemFailure) : TransportError :=
  match failure.kind with
  | .wouldBlock | .timedOut => .timeout
  | _ => .system failure

def isTimeout : TransportError → Bool
  | .timeout => true
  | _ => false

def source? : TransportError → Option SystemFailure
  | .system failure => some failure
  | _ => none

def message : TransportError → String
  | .closed => "Transport closed"
  | .timeout => "Timeout waiting for frame"
  | .sendFailed reason => s!"Send failed: {reason}"
  | .oversized length capacity =>
    s!"Frame of {length} bytes exceeds receive buffer of {capacity} bytes"
  | .system failure => s!"I/O error: {failure.reason}"

end TransportError

/-- What a wait brought: the bytes written to the buffer, from its start on, and the length that
the transport claims to have written. The two need not agree. -/
structure Delivery where
  written : Bytes
  reported : Nat
  deriving DecidableEq, Repr

namespace Delivery

def copy (frame : Bytes) (capacity : Nat) : Delivery :=
  { written := frame.take capacity, reported := min frame.length capacity }

def frame? (d : Delivery) (capacity : Nat) : Option Bytes :=
  if d.reported ≤ capacity then
    some (d.written.take d.reported ++ List.replicate (d.reported - d.written.length) 0)
  else none

end Delivery

/-- Outcomes and state changes of a transport. A wait names the buffer's capacity and the longest
time in milliseconds, none for a wait without end. -/
structure Transport (σ : Type) where
  device : σ → Except TransportError Identifier × σ
  send : Bytes → σ → Except TransportError Unit × σ
  receive : Nat → Option UInt64 → σ → Except TransportError Delivery × σ

end OffloadBench.Device
