/-! # Generator

A 64-bit shift generator. Its seed is mixed once, so that neighbouring seeds start far apart, and
the one state that the step maps to itself is never a start. A bounded draw rejects the raw values
past the last whole multiple of its bound, so every result has the same number of raw values.
-/
namespace OffloadBench.Draw

def golden : UInt64 := 0x9E3779B97F4A7C15

def mix (seed : UInt64) : UInt64 :=
  let a := seed + golden
  let b := (a ^^^ (a >>> 30)) * 0xBF58476D1CE4E5B9
  let c := (b ^^^ (b >>> 27)) * 0x94D049BB133111EB
  c ^^^ (c >>> 31)

def advance (state : UInt64) : UInt64 :=
  let a := state ^^^ (state <<< 13)
  let b := a ^^^ (a >>> 7)
  b ^^^ (b <<< 17)

structure Generator where
  seed : UInt64
  state : UInt64
  deriving DecidableEq, Repr

namespace Generator

/-- Zero is a fixed point of the step, so a seed that mixes to it starts elsewhere. -/
def ofSeed (seed : UInt64) : Generator where
  seed := seed
  state := if mix seed = 0 then golden else mix seed

def clockSeed (nanoseconds : UInt64) : UInt64 := mix nanoseconds

def next (g : Generator) : UInt64 × Generator :=
  let value := advance g.state
  (value, { g with state := value })

end Generator

/-- The raw values below this limit fall into whole blocks of the bound. -/
def acceptLimit (bound : Nat) : Nat := (UInt64.size - 1) - (UInt64.size - 1) % bound

/-- The first state after the given one whose value lies below the limit. The number of steps is
bounded by the length of the longest cycle. -/
def firstBelow (limit : Nat) : Nat → UInt64 → UInt64
  | 0, state => state
  | steps + 1, state =>
    let value := advance state
    if value.toNat < limit then value else firstBelow limit steps value

def longestCycle : Nat := UInt64.size - 1

inductive DrawError
  | zeroBound
  deriving DecidableEq, Repr

def DrawError.message : DrawError → String
  | .zeroBound => "bound must be non-zero"

namespace Generator

def below (g : Generator) (bound : Nat) : Nat × Generator :=
  let value := firstBelow (acceptLimit bound) longestCycle g.state
  (value.toNat % bound, { g with state := value })

def below? (g : Generator) (bound : Nat) : Except DrawError (Nat × Generator) :=
  if bound = 0 then .error .zeroBound else .ok (g.below bound)

end Generator

end OffloadBench.Draw
