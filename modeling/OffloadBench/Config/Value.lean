import OffloadBench.Config.Settings
import OffloadBench.Json.Value

/-! # Settings as JSON

Every setting is a member under its name; one that is not set is null.
-/
namespace OffloadBench.Config
open Json

def PacketSettings.value (p : PacketSettings) : Value :=
  .object [
    ("element_count", .nat p.elementCount.toNat),
    ("max_level", .nat p.maxLevel.toNat),
    ("collective_id", .nat p.collectiveId.toNat),
    ("collective_type", .nat p.collectiveType.toNat),
    ("op_code", .nat p.opCode.toNat)]

def RunSettings.value (r : RunSettings) : Value :=
  .object [
    ("test_sets", .nat r.testSets.toNat),
    ("seed", .ofOption (fun seed => .nat seed.toNat) r.seed),
    ("response_level_offset", .nat r.responseLevelOffset.toNat),
    ("receive_timeout_ms", .ofOption (fun timeout => .nat timeout.toNat) r.receiveTimeout),
    ("dump_packets", .bool r.dumpPackets)]

def Settings.value (s : Settings) : Value :=
  .object [("packet", s.packet.value), ("run", s.run.value)]

end OffloadBench.Config
