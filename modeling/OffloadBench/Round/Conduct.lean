import OffloadBench.Device.Transport
import OffloadBench.Round.Reception

/-! # Conduct of a round

A round has two phases that never overlap: all stimuli are sent, then responses are awaited until
every level is verified. The first fault ends it. The state of the transport is handed on in either
case.
-/
namespace OffloadBench.Round
open Device Wire

variable {σ : Type}

def sendLevels (t : Transport σ) (set : TestSet) : List Nat → σ → Except Fault Unit × σ
  | [], state => (.ok (), state)
  | level :: rest, state =>
    match set.stimulusFrame level with
    | .error e => (.error (.malformed set.index .sending e), state)
    | .ok frame =>
      match t.send frame state with
      | (.error e, state) => (.error (.ofTransport set.index .sending e), state)
      | (.ok (), state) => sendLevels t set rest state

def sendStimuli (t : Transport σ) (set : TestSet) (state : σ) : Except Fault Unit × σ :=
  sendLevels t set set.order state

/-- The buffer holds two frames, so that a frame that is too long is seen to be. -/
def bufferCapacity (set : TestSet) : Nat := set.frameLength * 2

def awaited (set : TestSet) (r : Reception) : Except TransportError Delivery → Except Fault Bytes
  | .error .timeout => .error (.receiveTimeout set.index r.received set.levelCount)
  | .error e => .error (.ofTransport set.index .receiving e)
  | .ok delivery =>
    match delivery.frame? (bufferCapacity set) with
    | some frame => .ok frame
    | none =>
      .error (.transport set.index .receiving
        s!"transport reported {delivery.reported} bytes into a {bufferCapacity set}-byte buffer"
        none)

def collect (t : Transport σ) (set : TestSet) (offset : UInt8) (timeout : Option UInt64)
    (r : Reception) (state : σ) : Except Fault Reception × σ :=
  if r.isComplete set then (.ok r, state)
  else
    let (outcome, state) := t.receive (bufferCapacity set) timeout state
    match awaited set r outcome with
    | .error fault => (.error fault, state)
    | .ok frame =>
      match _ : accept set offset r frame with
      | (.error fault, _) => (.error fault, state)
      | (.ok _, r') => collect t set offset timeout r' state
termination_by 256 - r.observed.size
decreasing_by
  have hsize := size_of_accept_ok ‹accept set offset r frame = _›
  have hle := r'.observed.size_le
  omega

def collectResponses (t : Transport σ) (set : TestSet) (offset : UInt8) (timeout : Option UInt64)
    (state : σ) : Except Fault Reception × σ :=
  collect t set offset timeout {} state

end OffloadBench.Round
