import OffloadBench.Text.Numeral

/-! # Device identifiers

A device is known by 48 bits, written as twelve lower case hexadecimal digits. Reading is more
generous: separators, either letter case, a leading `0x` and fewer digits.
-/
namespace OffloadBench.Device
open Text

structure Identifier where
  raw : UInt64
  deriving DecidableEq, Repr

namespace Identifier

def mask : UInt64 := 0xFFFFFFFFFFFF

def ofRaw (raw : UInt64) : Identifier := ⟨raw &&& mask⟩

def isSeparator (c : Char) : Bool := c == ':' || c == '-'

def unmarked : List Char → List Char
  | '0' :: 'x' :: rest => rest
  | '0' :: 'X' :: rest => rest
  | body => body

def written (text : String) : List Char :=
  (unmarked (trim text.toList)).filter fun c => !isSeparator c

def ofText? (text : String) : Option Identifier :=
  if (written text).length ≤ 12 then
    (digits? 16 (written text)).map fun n => ofRaw (UInt64.ofNat n)
  else none

def toText (d : Identifier) : String := hexPadded 12 d.raw.toNat

end Identifier

end OffloadBench.Device
