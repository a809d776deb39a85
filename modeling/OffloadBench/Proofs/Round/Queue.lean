import OffloadBench.Device.Script
import OffloadBench.Proofs.Run.Sets

/-! # Queues of replies

A transport that takes every frame and whose waits draw on a queue fixed beforehand. One set of a run
over it verifies exactly if the next items of the queue are the owed frames of all levels, in any
order; the set then takes these items and no more.
-/
namespace OffloadBench.Device
open Wire

variable {σ : Type}

def Reply.outcome (capacity : Nat) : Reply → Except TransportError Delivery
  | .frame bytes => .ok (.copy bytes capacity)
  | .length reported => .ok ⟨[], reported⟩
  | .error e => .error e

end OffloadBench.Device

namespace OffloadBench.Round
open Config Device Draw Wire

variable {σ : Type} {t : Transport σ} {serves : σ → List Reply → Prop}

end OffloadBench.Round
