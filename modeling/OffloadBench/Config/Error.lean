import OffloadBench.Device.Transport
import OffloadBench.Text.Quoted

/-! # Configuration errors -/
namespace OffloadBench.Config
open Device

inductive ConfigError
  | unreadable (failure : SystemFailure)
  | malformed (text : String)
  | noElements
  | noTestSets
  | frameTooLarge (length limit : UInt64)
  | stimulusRange (testSets : UInt32) (most : UInt64)
  | levelRange (maxLevel offset : UInt8)
  | unknownKey (key : String)
  | badValue (key value : String)
  deriving DecidableEq, Repr

namespace ConfigError

def message : ConfigError → String
  | .unreadable failure => s!"config I/O error: {failure.reason}"
  | .malformed text => s!"config parse error: {text}"
  | .noElements => "element_count must be > 0"
  | .noTestSets => "test_sets must be > 0"
  | .frameTooLarge length limit =>
    s!"frame of {length.toNat} bytes exceeds the {limit.toNat}-byte datagram limit"
  | .stimulusRange testSets most =>
    s!"test_sets {testSets.toNat} exceeds {most.toNat}, the most sets with distinct stimuli " ++
      "for this geometry"
  | .levelRange maxLevel offset =>
    s!"max_level {maxLevel.toNat} + response_level_offset {offset.toNat} exceeds 255"
  | .unknownKey key => s!"invalid override: {key}"
  | .badValue key value => s!"invalid value for {key}: {Text.quoted value}"

def source? : ConfigError → Option SystemFailure
  | .unreadable failure => some failure
  | _ => none

end ConfigError

end OffloadBench.Config
