import OffloadBench.Config.Error
import OffloadBench.Config.Settings

/-! # Validity

Settings are valid if a frame holds something and fits a datagram, if there is a set to test and no
stimulus value comes twice, and if every response level fits the level byte.
-/
namespace OffloadBench.Config
open Stimulus

/-- The largest payload of a datagram. -/
def datagramLimit : UInt64 := 65507

namespace Settings

def pattern (s : Settings) : Pattern :=
  .ofGeometry (UInt64.ofNat s.packet.levelCount) s.packet.elementCount

def validate (s : Settings) : Except ConfigError Unit :=
  if s.packet.elementCount = 0 then .error .noElements
  else if datagramLimit < s.packet.layout.frameLength then
    .error (.frameTooLarge s.packet.layout.frameLength datagramLimit)
  else if s.run.testSets = 0 then .error .noTestSets
  else if s.pattern.distinctSets < s.run.testSets.toUInt64 then
    .error (.stimulusRange s.run.testSets s.pattern.distinctSets)
  else if 255 < s.packet.maxLevel.toNat + s.run.responseLevelOffset.toNat then
    .error (.levelRange s.packet.maxLevel s.run.responseLevelOffset)
  else .ok ()

end Settings

end OffloadBench.Config
