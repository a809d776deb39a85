import OffloadBench.Text.Blank

/-! # Numerals

Digits in bases up to sixteen, read with overflow as a failure and written in lower case. A numeral
of the tool is decimal, or hexadecimal behind `0x`; one plus sign may stand before the digits.
-/
namespace OffloadBench.Text

def digitValue? (base : Nat) (c : Char) : Option Nat :=
  let value :=
    if '0' ≤ c ∧ c ≤ '9' then c.toNat - '0'.toNat
    else if 'a' ≤ c ∧ c ≤ 'f' then c.toNat - 'a'.toNat + 10
    else if 'A' ≤ c ∧ c ≤ 'F' then c.toNat - 'A'.toNat + 10
    else base
  if value < base then some value else none

def digitsFrom? (base : Nat) (value : Nat) : List Char → Option Nat
  | [] => some value
  | c :: rest =>
    match digitValue? base c with
    | some digit => digitsFrom? base (value * base + digit) rest
    | none => none

def digits? (base : Nat) : List Char → Option Nat
  | [] => none
  | text => digitsFrom? base 0 text

/-- One or more digits whose value stays below a bound, behind at most one plus sign. -/
def unsigned? (base bound : Nat) (text : List Char) : Option Nat :=
  let body := match text with
    | '+' :: rest => rest
    | _ => text
  (digits? base body).filter (· < bound)

/-- A numeral of at most 64 bits, surrounding white space aside. -/
def numeral? (text : List Char) : Option UInt64 :=
  let body := trim text
  let value := match body with
    | '0' :: 'x' :: digits => unsigned? 16 UInt64.size digits
    | '0' :: 'X' :: digits => unsigned? 16 UInt64.size digits
    | _ => unsigned? 10 UInt64.size body
  value.map UInt64.ofNat

def signed? (least greatest : Int) (text : List Char) : Option Int :=
  let value := match text with
    | '-' :: rest => (digits? 10 rest).map fun n => -(n : Int)
    | '+' :: rest => (digits? 10 rest).map fun n => (n : Int)
    | _ => (digits? 10 text).map fun n => (n : Int)
  value.filter fun v => least ≤ v && v ≤ greatest

def decimal (n : Nat) : String := String.ofList (Nat.toDigits 10 n)

def hex (n : Nat) : String := String.ofList (Nat.toDigits 16 n)

def hexPadded (width n : Nat) : String :=
  String.ofList ((Nat.toDigits 16 n).leftpad width '0')

def hexMarked (n : Nat) : String := "0x" ++ hex n

end OffloadBench.Text
