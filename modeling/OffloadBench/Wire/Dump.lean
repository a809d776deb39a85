import OffloadBench.Wire.Bytes
import OffloadBench.Text.Numeral

/-! # Hex dumps

Sixteen bytes to a row, with a gap after eight.
-/
namespace OffloadBench.Wire

/-- What follows the byte that ends a run of `count` bytes: a row ends after sixteen. -/
def dumpGap (count : Nat) : String :=
  if count % 16 = 0 then "\n" else if count % 8 = 0 then " " else ""

def dumpFrom (count : Nat) : Bytes → List String
  | [] => if count % 16 = 0 then [] else ["\n"]
  | byte :: rest =>
    (Text.hexPadded 2 byte.toNat ++ " " ++ dumpGap (count + 1)) :: dumpFrom (count + 1) rest

def dump (bytes : Bytes) : String := String.join (dumpFrom 0 bytes)

end OffloadBench.Wire
