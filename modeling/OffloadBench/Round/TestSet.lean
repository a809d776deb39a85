import OffloadBench.Config.Settings
import OffloadBench.Draw.Order
import OffloadBench.Stimulus.RunningSum

/-! # Test sets

All that one round needs: a stimulus for every level, the order they are sent in, and the running
sums that the responses have to carry. A test set is well formed by construction.
-/
namespace OffloadBench.Round
open Config Draw Stimulus Wire

structure TestSet where
  index : UInt32
  packet : PacketSettings
  inputs : List Payload
  order : List Nat
  sums : List Payload
  length_inputs : inputs.length = packet.levelCount
  length_of_mem : ∀ p ∈ inputs, p.length = packet.elementCount.toNat
  order_perm : order.Perm (List.range inputs.length)
  runningSums_inputs : runningSums? inputs = some sums

inductive PartsError
  | inputCount
  | inputLength
  | badOrder (order : List Nat)
  deriving DecidableEq, Repr

def PartsError.message : PartsError → String
  | .inputCount => "one input payload per level required"
  | .inputLength => "every payload must carry element_count elements"
  | .badOrder order =>
    let listed := ", ".intercalate (order.map Text.decimal)
    s!"transmission order must be a permutation of the levels: [{listed}]"

inductive PrepareError
  | stimuli (error : CapacityError)
  | order (error : OrderError)
  | parts (error : PartsError)
  | sums (error : SumError)
  deriving DecidableEq, Repr

def PrepareError.message : PrepareError → String
  | .stimuli error => error.message
  | .order error => error.message
  | .parts error => error.message
  | .sums error => error.message

inductive FrameError
  | noLevel (level count : Nat)
  | capacity (error : CapacityError)
  | codec (error : CodecError)
  deriving DecidableEq, Repr

namespace TestSet

def sumsOf (inputs : List Payload) {n : Nat} (h : ∀ p ∈ inputs, p.length = n) : List Payload :=
  (runningSums? inputs).get (runningSums?_isSome h)

def ofParts (index : UInt32) (packet : PacketSettings) (inputs : List Payload)
    (order : List Nat) : Except PartsError TestSet :=
  if hcount : inputs.length = packet.levelCount then
    if hlength : ∀ p ∈ inputs, p.length = packet.elementCount.toNat then
      if horder : order.length = inputs.length ∧ isOrder order = true then
        .ok {
          index, packet, inputs, order
          sums := sumsOf inputs hlength
          length_inputs := hcount
          length_of_mem := hlength
          order_perm := horder.1 ▸ perm_of_isOrder horder.2
          runningSums_inputs := (Option.some_get _).symm }
      else .error (.badOrder order)
    else .error .inputLength
  else .error .inputCount

theorem length_stimuli_levelCount (index : UInt32) (packet : PacketSettings) :
    (stimuli index (UInt64.ofNat packet.levelCount) packet.elementCount).length =
      packet.levelCount := by
  have := packet.maxLevel.toNat_lt
  rw [length_stimuli, UInt64.toNat_ofNat']
  simp only [PacketSettings.levelCount]
  omega

def prepare (index : UInt32) (packet : PacketSettings) (g : Generator) : TestSet × Generator :=
  let inputs := stimuli index (UInt64.ofNat packet.levelCount) packet.elementCount
  let drawn := g.order packet.levelCount
  ({ index, packet, inputs
     order := drawn.1
     sums := sumsOf inputs fun _ h => length_of_mem_stimuli h
     length_inputs := length_stimuli_levelCount index packet
     length_of_mem := fun _ h => length_of_mem_stimuli h
     order_perm := length_stimuli_levelCount index packet ▸ g.order_perm packet.levelCount
     runningSums_inputs := (Option.some_get _).symm },
    drawn.2)

/-- The test set of an index with every check on the way: room for its parts, draws and exchanges, the
parts themselves, and their sums. -/
def prepare? (index : UInt32) (packet : PacketSettings) (g : Generator) :
    Except PrepareError (TestSet × Generator) :=
  match stimuli? index (UInt64.ofNat packet.levelCount) packet.elementCount with
  | .error e => .error (.stimuli e)
  | .ok inputs =>
    match g.order? packet.levelCount with
    | .error e => .error (.order e)
    | .ok (order, g) =>
      match ofParts index packet inputs order, runningSums inputs with
      | .error e, _ => .error (.parts e)
      | .ok _, .error e => .error (.sums e)
      | .ok set, .ok _ => .ok (set, g)

def levelCount (set : TestSet) : Nat := set.inputs.length

def layout (set : TestSet) : Layout := set.packet.layout

def frameLength (set : TestSet) : Nat := set.layout.frameLength.toNat

def metadata (set : TestSet) (level : UInt8) : Metadata := set.packet.metadata level

def stimulusFrame (set : TestSet) (level : Nat) : Except CodecError Bytes :=
  set.layout.encode (set.metadata (levelByte level)) (set.inputs.getD level [])

def expectedFrame (set : TestSet) (reported : UInt8) (level : Nat) : Except CodecError Bytes :=
  set.layout.encode (set.metadata reported) (set.sums.getD level [])

def frame? (set : TestSet) (m : Metadata) (payloads : List Payload) (level : Nat) :
    Except FrameError Bytes :=
  match payloads[level]? with
  | none => .error (.noLevel level payloads.length)
  | some payload =>
    if Buffer.Fits Buffer.byteWidth set.frameLength then
      (set.layout.encode m payload).mapError .codec
    else .error (.capacity .overflow)

def stimulusFrame? (set : TestSet) (level : Nat) : Except FrameError Bytes :=
  set.frame? (set.metadata (levelByte level)) set.inputs level

def expectedFrame? (set : TestSet) (reported : UInt8) (level : Nat) : Except FrameError Bytes :=
  set.frame? (set.metadata reported) set.sums level

end TestSet

end OffloadBench.Round
