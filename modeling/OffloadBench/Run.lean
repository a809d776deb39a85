import OffloadBench.Config.Validity
import OffloadBench.Round.Conduct

/-! # Runs

A harness holds valid settings and the seed of every send order. A run asks the device for its
identifier and conducts one round per test set, each with the next order that the seed gives.
-/
namespace OffloadBench
open Config Device Draw Round

structure Harness where
  settings : Settings
  seed : UInt64
  valid : settings.validate = .ok ()

def Harness.ofSettings (settings : Settings) (clockSeed : UInt64) : Except Fault Harness :=
  match h : settings.validate with
  | .error e => .error (.config e)
  | .ok () => .ok ⟨settings, settings.run.seed.getD clockSeed, h⟩

structure SetReport where
  index : UInt32
  sendOrder : List Nat
  arrivalOrder : List UInt8
  deriving DecidableEq, Repr

structure Report where
  seed : UInt64
  device : Identifier
  setsCompleted : UInt32
  responsesVerified : Nat
  sets : List SetReport
  deriving DecidableEq, Repr

variable {σ : Type}

def runSet (t : Transport σ) (settings : Settings) (set : TestSet) (state : σ) :
    Except Fault Reception × σ :=
  match sendStimuli t set state with
  | (.error fault, state) => (.error fault, state)
  | (.ok (), state) =>
    collectResponses t set settings.run.responseLevelOffset settings.run.receiveTimeout state

/-- What a run has come to: the reports of its sets, latest first, and the number of responses that
were verified in them. -/
structure Progress where
  sets : List SetReport := []
  verified : Nat := 0
  deriving DecidableEq, Repr

def Progress.add (p : Progress) (set : TestSet) (r : Reception) : Progress where
  sets := { index := set.index, sendOrder := set.order, arrivalOrder := r.arrival } :: p.sets
  verified := p.verified + r.received

def runSets (t : Transport σ) (settings : Settings) :
    Nat → UInt32 → Generator → Progress → σ → Except Fault Progress × σ
  | 0, _, _, p, state => (.ok p, state)
  | missing + 1, index, g, p, state =>
    let (set, g) := TestSet.prepare index settings.packet g
    match runSet t settings set state with
    | (.error fault, state) => (.error fault, state)
    | (.ok r, state) => runSets t settings missing (index + 1) g (p.add set r) state

namespace Harness

def run (h : Harness) (t : Transport σ) (state : σ) : Except Fault Report × σ :=
  match t.device state with
  | (.error e, state) => (.error (.ofTransport 0 .setup e), state)
  | (.ok device, state) =>
    match runSets t h.settings h.settings.run.testSets.toNat 0 (.ofSeed h.seed) {} state with
    | (.error fault, state) => (.error fault, state)
    | (.ok p, state) =>
      (.ok {
        seed := h.seed
        device
        setsCompleted := h.settings.run.testSets
        responsesVerified := p.verified
        sets := p.sets.reverse }, state)

end Harness

end OffloadBench
