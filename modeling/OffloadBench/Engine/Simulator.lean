import OffloadBench.Device.Transport
import OffloadBench.Engine.Response

/-! # The simulated engine

The engine stages frames until a round is full: one frame for each level up to the highest level
that the last frame names. It then emits the whole round at once into its outbox. Whatever it
refuses leaves it as it was.
-/
namespace OffloadBench.Engine
open Device Draw Wire

/-- Counts that stay below 2 ^ 64 until 2 ^ 61 requests have been made. -/
structure Stats where
  framesReceived : Nat := 0
  framesEmitted : Nat := 0
  roundsCompleted : Nat := 0
  faultsInjected : Nat := 0
  deriving DecidableEq, Repr

def Stats.toText (s : Stats) : String :=
  s!"EngineStats \x7b received: {s.framesReceived}, emitted: {s.framesEmitted}, " ++
    s!"rounds: {s.roundsCompleted}, faults: {s.faultsInjected} \x7d"

structure Simulator where
  settings : EngineSettings
  generator : Generator
  /-- Lowest level first. -/
  staged : List Packet := []
  outbox : List Bytes := []
  stats : Stats := {}

inductive Refusal
  | unparsable (length : Nat)
  | undecodable (error : CodecError)
  | levelTooHigh (level maxLevel : UInt8)
  | alreadyStaged (level : UInt8)
  deriving DecidableEq, Repr

def Refusal.message : Refusal → String
  | .unparsable length => s!"engine cannot parse a {length}-byte frame"
  | .undecodable error => error.message
  | .levelTooHigh level maxLevel => s!"level {level.toNat} exceeds max level {maxLevel.toNat}"
  | .alreadyStaged level => s!"level {level.toNat} already staged for this round"

def layoutOfLength? (length : Nat) : Option Layout :=
  if length < 8 ∨ (length - 8) % 4 ≠ 0 then none else some ⟨UInt64.ofNat ((length - 8) / 4)⟩

def insertByLevel (p : Packet) : List Packet → List Packet
  | [] => [p]
  | q :: rest =>
    if p.metadata.level < q.metadata.level then p :: q :: rest else q :: insertByLevel p rest

namespace Simulator

def ofSettings (settings : EngineSettings) : Simulator where
  settings := settings
  generator := .ofSeed settings.seed

def pending (e : Simulator) : Nat := e.outbox.length

def isStaged (e : Simulator) (level : UInt8) : Bool :=
  e.staged.any fun p => p.metadata.level == level

def completeRound (e : Simulator) (layout : Layout) : Simulator :=
  let emission :=
    if e.settings.faults.isActive e.stats.roundsCompleted then
      e.settings.emitFaulty layout e.generator e.staged
    else e.settings.emit layout e.generator e.staged
  { e with
    generator := emission.generator
    staged := []
    outbox := e.outbox ++ emission.responses.map (·.frame)
    stats := { e.stats with
      framesEmitted := e.stats.framesEmitted + emission.responses.length
      roundsCompleted := e.stats.roundsCompleted + 1
      faultsInjected := e.stats.faultsInjected + emission.faults } }

def inspect (e : Simulator) (frame : Bytes) : Except Refusal (Layout × Packet) :=
  match layoutOfLength? frame.length with
  | none => .error (.unparsable frame.length)
  | some layout =>
    match layout.decode frame with
    | .error error => .error (.undecodable error)
    | .ok p =>
      if p.metadata.maxLevel < p.metadata.level then
        .error (.levelTooHigh p.metadata.level p.metadata.maxLevel)
      else if e.isStaged p.metadata.level then .error (.alreadyStaged p.metadata.level)
      else .ok (layout, p)

def stage (e : Simulator) (layout : Layout) (p : Packet) : Simulator :=
  let e := { e with
    staged := insertByLevel p e.staged
    stats := { e.stats with framesReceived := e.stats.framesReceived + 1 } }
  if e.staged.length = p.metadata.maxLevel.toNat + 1 then e.completeRound layout else e

def send (frame : Bytes) (e : Simulator) : Except TransportError Unit × Simulator :=
  match e.inspect frame with
  | .error refusal => (.error (.sendFailed refusal.message), e)
  | .ok (layout, p) => (.ok (), e.stage layout p)

/-- Takes the next frame out of the outbox, even if the buffer is too small for it. -/
def receive (capacity : Nat) (_ : Option UInt64) (e : Simulator) :
    Except TransportError Delivery × Simulator :=
  match e.outbox with
  | [] => (.error .timeout, e)
  | frame :: rest =>
    let e := { e with outbox := rest }
    if capacity < frame.length then (.error (.oversized frame.length capacity), e)
    else (.ok (.copy frame capacity), e)

def transport : Transport Simulator where
  device := fun e => (.ok e.settings.device, e)
  send := send
  receive := receive

end Simulator

end OffloadBench.Engine
