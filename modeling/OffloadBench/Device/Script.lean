import OffloadBench.Device.Transport

/-! # Scripted transports

A script fixes every outcome beforehand: the answer to the device query, the sends that are refused,
and the queue that the waits draw on. An empty queue times out.
-/
namespace OffloadBench.Device
open Wire

inductive Reply
  | frame (bytes : Bytes)
  | length (reported : Nat)
  | error (error : TransportError)
  deriving DecidableEq, Repr

structure Script where
  device : Except TransportError Identifier := .ok ⟨0⟩
  /-- A send is refused when as many frames were taken as stand beside an error. -/
  refusals : List (Nat × TransportError) := []
  replies : List Reply := []
  taken : Nat := 0

namespace Script

def send (_ : Bytes) (s : Script) : Except TransportError Unit × Script :=
  match s.refusals.lookup s.taken with
  | some error => (.error error, s)
  | none => (.ok (), { s with taken := s.taken + 1 })

def receive (capacity : Nat) (_ : Option UInt64) (s : Script) :
    Except TransportError Delivery × Script :=
  match s.replies with
  | [] => (.error .timeout, s)
  | .frame bytes :: rest => (.ok (.copy bytes capacity), { s with replies := rest })
  | .length reported :: rest => (.ok ⟨[], reported⟩, { s with replies := rest })
  | .error error :: rest => (.error error, { s with replies := rest })

def transport : Transport Script where
  device := fun s => (s.device, s)
  send := send
  receive := receive

end Script

end OffloadBench.Device
