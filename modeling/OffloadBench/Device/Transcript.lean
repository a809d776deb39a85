import OffloadBench.Device.Transport

/-! # Transcripts

A recorded transport does what the transport does and keeps every request with its outcome, in the
order of the requests.
-/
namespace OffloadBench.Device
open Wire

inductive Exchange
  | queried (outcome : Except TransportError Identifier)
  | sent (frame : Bytes) (outcome : Except TransportError Unit)
  | received (capacity : Nat) (timeout : Option UInt64) (outcome : Except TransportError Delivery)

abbrev Transcript := Array Exchange

namespace Transcript

def frames (log : Transcript) : List Bytes :=
  log.toList.filterMap fun
    | .sent frame (.ok ()) => some frame
    | _ => none

def waits (log : Transcript) : List (Nat × Option UInt64) :=
  log.toList.filterMap fun
    | .received capacity timeout _ => some (capacity, timeout)
    | _ => none

end Transcript

def Transport.recorded {σ : Type} (t : Transport σ) : Transport (σ × Transcript) where
  device := fun (state, log) =>
    let (outcome, state) := t.device state
    (outcome, state, log.push (.queried outcome))
  send := fun frame (state, log) =>
    let (outcome, state) := t.send frame state
    (outcome, state, log.push (.sent frame outcome))
  receive := fun capacity timeout (state, log) =>
    let (outcome, state) := t.receive capacity timeout state
    (outcome, state, log.push (.received capacity timeout outcome))

end OffloadBench.Device
