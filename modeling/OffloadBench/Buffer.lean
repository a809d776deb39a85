/-! # Buffers

Items of one width stand side by side in a buffer, and a buffer has at most 2 ^ 63 - 1 bytes. Room for
all of them is asked for before the first one is there, so a request for too many is an error by itself.
-/
namespace OffloadBench

inductive CapacityError
  | overflow
  deriving DecidableEq, Repr

def CapacityError.message : CapacityError → String
  | .overflow => "capacity overflow"

namespace Buffer

def limit : Nat := 0x7FFFFFFFFFFFFFFF

def Fits (width count : Nat) : Prop := width * count ≤ limit

instance (width count : Nat) : Decidable (Fits width count) := inferInstanceAs (Decidable (_ ≤ _))

def byteWidth : Nat := 1

def wordWidth : Nat := 4

def indexWidth : Nat := 8

/-- A payload among others: where its words are, how many there are and how many could be. -/
def payloadWidth : Nat := 24

end Buffer

end OffloadBench
