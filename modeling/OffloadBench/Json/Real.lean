import OffloadBench.Text.Numeral

/-! # Real numbers

Binary floating point numbers of 64 bits, by their bits. A number is written with the fewest digits
that read back as it, of these with the digits nearest to it; positionally from 1e-5 up to 1e16,
and otherwise with an exponent, whose sign is always written.
-/
namespace OffloadBench.Json

structure Real where
  bits : UInt64
  deriving DecidableEq, Repr

namespace Real

def isNegative (r : Real) : Bool := r.bits >>> 63 == 1

def exponentBits (r : Real) : Nat := (r.bits >>> 52).toNat % 2048

def hiddenBit : Nat := 0x10000000000000

def fractionBits (r : Real) : Nat := r.bits.toNat % hiddenBit

def isFinite (r : Real) : Bool := r.exponentBits < 2047

def powerOfTen (n : Nat) : Float := Float.ofScientific 1 false n

def tenLimit : Nat := 308

/-- A magnitude times a power of ten. It is rounded after each step; a power out of range takes two
steps down, and none up. -/
def timesPower (magnitude : Float) (exponent : Int) : Float :=
  let n := exponent.natAbs
  if 0 ≤ exponent then
    if n ≤ tenLimit then magnitude * powerOfTen n
    else if magnitude == 0.0 then 0.0 else 1.0 / 0.0
  else if n ≤ tenLimit then magnitude / powerOfTen n
  else if n ≤ 2 * tenLimit then magnitude / powerOfTen tenLimit / powerOfTen (n - tenLimit)
  else 0.0

/-- The number that a decimal one is read as, if it is finite: a mantissa of 64 bits is rounded to a
number first, and scaled then. -/
def ofDecimal? (negative : Bool) (mantissa : UInt64) (exponent : Int) : Option Real :=
  let magnitude := timesPower mantissa.toFloat exponent
  let r : Real := ⟨(if negative then -magnitude else magnitude).toBits⟩
  if r.isFinite then some r else none

/-- The magnitude is this natural number times a power of two, whose exponent comes second. -/
def parts (r : Real) : Nat × Int :=
  if r.exponentBits = 0 then (r.fractionBits, -1074)
  else (r.fractionBits + hiddenBit, (r.exponentBits : Int) - 1075)

def scaled (n : Nat) (q : Int) : Nat × Nat :=
  if q < 0 then (n, Nat.pow 2 q.natAbs) else (n * Nat.pow 2 q.natAbs, 1)

def leadingExponent (num den : Nat) : Int :=
  if den ≤ num then ((Nat.toDigits 10 (num / den)).length : Int) - 1
  else
    let places := (List.range 400).find? fun j => den ≤ num * Nat.pow 10 (j + 1)
    .negSucc (places.getD 0)

/-- The digits on one decimal grid that read back as the number, the nearer of two, and of two
equally near the even ones. -/
def onGrid? (m : Nat) (q k : Int) (low high : Nat) : Option Nat :=
  let ten := Nat.pow 10 k.natAbs
  let (num, den) := scaled 1 (q - 2)
  let unit := if k < 0 then num * ten else num
  let step := if k < 0 then den else den * ten
  let value := 4 * m * unit
  let below := value / step
  let inside (d : Nat) : Bool :=
    if m % 2 = 0 then low * unit ≤ d * step && d * step ≤ high * unit
    else low * unit < d * step && d * step < high * unit
  let above := 2 * (value - below * step)
  let order :=
    if above < step ∨ (above = step ∧ below % 2 = 0) then [below, below + 1]
    else [below + 1, below]
  order.find? inside

/-- The fewest digits that read back as a positive number, and the exponent of the last one. -/
def shortest (m : Nat) (q : Int) : Nat × Int :=
  let low := if m = hiddenBit ∧ q ≠ -1074 then 4 * m - 1 else 4 * m - 2
  let high := 4 * m + 2
  let (num, den) := scaled m q
  let lead := leadingExponent num den
  let found := (List.range 17).findSome? fun (n : Nat) =>
    let k := lead - (n : Int)
    (onGrid? m q k low high).map fun d => (d, k)
  found.getD (m, 0)

def render (digits : List Char) (k : Int) : String :=
  let point : Int := digits.length + k
  let text (cs : List Char) : String := String.ofList cs
  if 0 ≤ k ∧ point ≤ 16 then text digits ++ text (List.replicate k.toNat '0') ++ ".0"
  else if 0 < point ∧ point ≤ 16 then
    text (digits.take point.toNat) ++ "." ++ text (digits.drop point.toNat)
  else if -5 < point ∧ point ≤ 0 then
    "0." ++ text (List.replicate point.natAbs '0') ++ text digits
  else
    let exponent := point - 1
    let written := (if exponent < 0 then "-" else "+") ++ Text.decimal exponent.natAbs
    match digits with
    | [digit] => digit.toString ++ "e" ++ written
    | _ => text (digits.take 1) ++ "." ++ text (digits.drop 1) ++ "e" ++ written

def dropZeros (digits : List Char) (k : Int) : List Char × Int :=
  let zeros := (digits.reverse.takeWhile (· == '0')).length
  (digits.take (digits.length - zeros), k + zeros)

def toText (r : Real) : String :=
  let (m, q) := r.parts
  let magnitude :=
    if m = 0 then "0.0"
    else
      let (d, k) := shortest m q
      let (digits, k) := dropZeros (Nat.toDigits 10 d) k
      render digits k
  (if r.isNegative then "-" else "") ++ magnitude

end Real

end OffloadBench.Json
