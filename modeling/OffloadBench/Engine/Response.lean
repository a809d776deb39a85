import OffloadBench.Engine.Settings
import OffloadBench.Draw.Shuffle
import OffloadBench.Stimulus.RunningSum
import OffloadBench.Wire.Frame

/-! # Responses of a round

The answer to a full round of packets, level by level: every level gets the sum of all packets up to
its own. Then the faults that act on single responses, the order, and the fault that repeats one.
-/
namespace OffloadBench.Engine
open Draw Stimulus Wire

structure Response where
  level : UInt8
  frame : Bytes
  deriving DecidableEq, Repr

def respond? (layout : Layout) (levelOffset : UInt8) (m : Metadata) (sum : Payload) :
    Option Response :=
  match layout.encode (m.withLevel (m.level + levelOffset)) sum with
  | .ok frame => some ⟨m.level, frame⟩
  | .error _ => none

def respondAfter (layout : Layout) (levelOffset : UInt8) (sum : Payload) :
    List Packet → List Response
  | [] => []
  | p :: rest =>
    let sum := addWords p.payload sum
    (respond? layout levelOffset p.metadata sum).toList ++
      respondAfter layout levelOffset sum rest

def responses (layout : Layout) (levelOffset : UInt8) : List Packet → List Response
  | [] => []
  | p :: rest =>
    (respond? layout levelOffset p.metadata p.payload).toList ++
      respondAfter layout levelOffset p.payload rest

namespace Faults

def applyEmpty (f : Faults) (r : Response) : Response × Nat :=
  if f.empty = some r.level then ({ r with frame := [] }, 1) else (r, 0)

def applyCorrupt (f : Faults) (r : Response) : Response × Nat :=
  match f.corrupt.filter (·.level = r.level) with
  | none => (r, 0)
  | some c =>
    match r.frame[c.offset]? with
    | none => (r, 0)
    | some byte => ({ r with frame := r.frame.set c.offset (byte ^^^ c.bits) }, 1)

def applyTruncate (f : Faults) (r : Response) : Response × Nat :=
  match f.truncate.filter (·.level = r.level) with
  | none => (r, 0)
  | some t => ({ r with frame := r.frame.take (r.frame.length - t.bytes) }, 1)

def applyTo (f : Faults) (r : Response) : Option Response × Nat :=
  if f.drop = some r.level then (none, 1)
  else
    let (r, emptied) := f.applyEmpty r
    let (r, corrupted) := f.applyCorrupt r
    let (r, truncated) := f.applyTruncate r
    (some r, emptied + corrupted + truncated)

def apply (f : Faults) (rs : List Response) : List Response :=
  rs.filterMap fun r => (f.applyTo r).1

/-- How many faults that took; reversed sums count once for the round. -/
def applyCount (f : Faults) (rs : List Response) : Nat :=
  (if f.reverse then 1 else 0) + (rs.map fun r => (f.applyTo r).2).foldr (· + ·) 0

/-- Moves the response of the repeated level to the front, twice. -/
def repeatFirst (f : Faults) (rs : List Response) : List Response × Nat :=
  match f.duplicate with
  | none => (rs, 0)
  | some level =>
    match rs.find? (·.level = level) with
    | none => (rs, 0)
    | some r => (r :: r :: rs.eraseP (·.level = level), 1)

end Faults

/-- A round's emission: its responses in the order they leave, the faults injected and the
generator after the draws. -/
structure Emission where
  responses : List Response
  faults : Nat
  generator : Generator

def EngineSettings.arrange (s : EngineSettings) (g : Generator) (rs : List Response) :
    List Response × Generator :=
  if s.reorder then g.shuffle rs else (rs, g)

def EngineSettings.emit (s : EngineSettings) (layout : Layout) (g : Generator)
    (packets : List Packet) : Emission :=
  let (rs, g) := s.arrange g (responses layout s.levelOffset packets)
  ⟨rs, 0, g⟩

def EngineSettings.emitFaulty (s : EngineSettings) (layout : Layout) (g : Generator)
    (packets : List Packet) : Emission :=
  let packets := if s.faults.reverse then packets.reverse else packets
  let sound := responses layout s.levelOffset packets
  let (rs, g) := s.arrange g (s.faults.apply sound)
  let (rs, repeated) := s.faults.repeatFirst rs
  ⟨rs, s.faults.applyCount sound + repeated, g⟩

end OffloadBench.Engine
