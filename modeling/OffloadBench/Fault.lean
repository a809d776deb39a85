import OffloadBench.Config.Error
import OffloadBench.Wire.Mismatch

/-! # Faults

A fault ends a run. It has a class, the phase it was raised in and, apart from configuration faults,
a test set; the three pack into one failure code.
-/
namespace OffloadBench
open Config Device Wire

inductive Phase
  | setup
  | sending
  | receiving
  deriving DecidableEq, Repr

namespace Phase

def name : Phase → String
  | .setup => "setup"
  | .sending => "sending"
  | .receiving => "receiving"

def code : Phase → UInt64
  | .setup => 0
  | .sending => 1
  | .receiving => 2

end Phase

inductive FaultClass
  | transport
  | length
  | duplicate
  | dataMismatch
  | malformed
  | timeout
  | unknownLevel
  | config
  deriving DecidableEq, Repr

namespace FaultClass

def code : FaultClass → UInt64
  | .transport => 1
  | .length => 2
  | .duplicate => 3
  | .dataMismatch => 4
  | .malformed => 5
  | .timeout => 6
  | .unknownLevel => 7
  | .config => 8

def name : FaultClass → String
  | .transport => "transport"
  | .length => "length"
  | .duplicate => "duplicate"
  | .dataMismatch => "data_mismatch"
  | .malformed => "malformed"
  | .timeout => "timeout"
  | .unknownLevel => "unknown_level"
  | .config => "config"

def title : FaultClass → String
  | .transport => "transport fault"
  | .length => "length fault"
  | .duplicate => "duplicate response fault"
  | .dataMismatch => "data mismatch fault"
  | .malformed => "malformed packet"
  | .timeout => "receive timeout"
  | .unknownLevel => "unknown level fault"
  | .config => "configuration error"

/-- The device broke the protocol; neither the link nor the operator is to blame. -/
def isProtocolViolation : FaultClass → Bool
  | .length | .duplicate | .dataMismatch | .unknownLevel => true
  | _ => false

end FaultClass

inductive Fault
  | transport (testSet : UInt32) (phase : Phase) (detail : String)
      (source : Option TransportError)
  | receiveTimeout (testSet : UInt32) (received expected : Nat)
  | length (testSet : UInt32) (expected actual : Nat)
  | duplicateResponse (testSet : UInt32) (level : UInt8)
  | unknownLevel (testSet : UInt32) (level first last : UInt8)
  | dataMismatch (testSet : UInt32) (level : UInt8) (mismatch : Mismatch)
  | malformed (testSet : UInt32) (phase : Phase) (source : CodecError)
  | config (error : ConfigError)
  deriving DecidableEq, Repr

namespace Fault

def ofTransport (testSet : UInt32) (phase : Phase) (error : TransportError) : Fault :=
  .transport testSet phase error.message (some error)

def faultClass : Fault → FaultClass
  | .transport .. => .transport
  | .receiveTimeout .. => .timeout
  | .length .. => .length
  | .duplicateResponse .. => .duplicate
  | .unknownLevel .. => .unknownLevel
  | .dataMismatch .. => .dataMismatch
  | .malformed .. => .malformed
  | .config _ => .config

def phase : Fault → Phase
  | .transport _ phase _ _ | .malformed _ phase _ => phase
  | .config _ => .setup
  | _ => .receiving

def testSet? : Fault → Option UInt32
  | .transport testSet .. | .receiveTimeout testSet .. | .length testSet ..
  | .duplicateResponse testSet .. | .unknownLevel testSet .. | .dataMismatch testSet ..
  | .malformed testSet .. => some testSet
  | .config _ => none

/-- The test set from bit 8 on, the phase in bits 4 to 7, the class below. -/
def failureCode (f : Fault) : UInt64 :=
  let set : UInt64 := match f.testSet? with
    | some set => set.toUInt64
    | none => 0
  (set <<< 8) ||| (f.phase.code <<< 4) ||| f.faultClass.code

def message : Fault → String
  | .transport testSet phase detail _ =>
    s!"transport fault in test set {testSet.toNat} ({phase.name}): {detail}"
  | .receiveTimeout testSet received expected =>
    s!"receive timeout in test set {testSet.toNat}: {received} of {expected} responses verified"
  | .length testSet expected actual =>
    s!"length fault in test set {testSet.toNat}: expected {expected} bytes, got {actual}"
  | .duplicateResponse testSet level =>
    s!"duplicate response in test set {testSet.toNat}: level {level.toNat} already verified"
  | .unknownLevel testSet level first last =>
    s!"unknown level {level.toNat} in test set {testSet.toNat} " ++
      s!"(valid response levels {first.toNat}..={last.toNat})"
  | .dataMismatch testSet level mismatch =>
    s!"data mismatch in test set {testSet.toNat}, level {level.toNat}: {mismatch.message}"
  | .malformed testSet phase source =>
    s!"malformed packet in test set {testSet.toNat} ({phase.name}): {source.message}"
  | .config error => error.message

def sourceMessage? : Fault → Option String
  | .transport _ _ _ source => source.map TransportError.message
  | .malformed _ _ source => some source.message
  | .config error => error.source?.map SystemFailure.reason
  | _ => none

end Fault

structure FailureCode where
  testSet : UInt64
  phase : UInt64
  faultClass : UInt64
  deriving DecidableEq, Repr

def FailureCode.unpack (code : UInt64) : FailureCode where
  testSet := code >>> 8
  phase := (code >>> 4) &&& 0xF
  faultClass := code &&& 0xF

end OffloadBench
