import OffloadBench.Json.Value

/-! # Scalars of JSON

Strings, numbers and words, each read from the start of a text, with the rest of the text handed
on. Integers that fit 64 bits stay integers; any other number is read as a real one.
-/
namespace OffloadBench.Json

def isSpace (c : Char) : Bool := c == ' ' || c == '\n' || c == '\r' || c == '\t'

def skipSpace (text : List Char) : List Char := text.dropWhile isSpace

def codeUnit? : List Char → Option (Nat × List Char)
  | a :: b :: c :: d :: rest => (Text.digits? 16 [a, b, c, d]).map fun n => (n, rest)
  | _ => none

/-- The character of an escape with a number, behind its letter. Two halves of a pair make one. -/
def numberedEscape? (text : List Char) : Option (Char × List Char) :=
  match codeUnit? text with
  | none => none
  | some (unit, rest) =>
    if 0xD800 ≤ unit ∧ unit < 0xDC00 then
      match rest with
      | '\\' :: 'u' :: rest =>
        match codeUnit? rest with
        | some (low, rest) =>
          if 0xDC00 ≤ low ∧ low < 0xE000 then
            some (Char.ofNat (0x10000 + (unit - 0xD800) * 0x400 + (low - 0xDC00)), rest)
          else none
        | none => none
      | _ => none
    else if 0xDC00 ≤ unit ∧ unit < 0xE000 then none
    else some (Char.ofNat unit, rest)

def namedEscape? : Char → Option Char
  | '"' => some '"'
  | '\\' => some '\\'
  | '/' => some '/'
  | 'b' => some '\x08'
  | 'f' => some '\x0c'
  | 'n' => some '\n'
  | 'r' => some '\r'
  | 't' => some '\t'
  | _ => none

def stringFrom : Nat → List Char → List Char → Option (String × List Char)
  | 0, _, _ => none
  | fuel + 1, read, text =>
    match text with
    | [] => none
    | '"' :: rest => some (String.ofList read.reverse, rest)
    | '\\' :: 'u' :: rest =>
      match numberedEscape? rest with
      | some (c, rest) => stringFrom fuel (c :: read) rest
      | none => none
    | '\\' :: name :: rest =>
      match namedEscape? name with
      | some c => stringFrom fuel (c :: read) rest
      | none => none
    | c :: rest => if c.toNat < 0x20 then none else stringFrom fuel (c :: read) rest

def string? : List Char → Option (String × List Char)
  | '"' :: rest => stringFrom (rest.length + 1) [] rest
  | _ => none

/-- The digits at the start of a text; there must be one, and no idle zero in front. -/
def wholePart? (text : List Char) : Option (List Char × List Char) :=
  let digits := text.takeWhile Char.isDigit
  if digits.isEmpty || (digits.head? = some '0' && digits.length > 1) then none
  else some (digits, text.drop digits.length)

def fraction? : List Char → Option (List Char × List Char)
  | '.' :: rest =>
    let digits := rest.takeWhile Char.isDigit
    if digits.isEmpty then none else some (digits, rest.drop digits.length)
  | text => some ([], text)

def exponent? (text : List Char) : Option (Option Int × List Char) :=
  match text with
  | e :: rest =>
    if e = 'e' || e = 'E' then
      let (negative, rest) := match rest with
        | '-' :: rest => (true, rest)
        | '+' :: rest => (false, rest)
        | rest => (false, rest)
      let digits := rest.takeWhile Char.isDigit
      match Text.digits? 10 digits with
      | some n => some (some (if negative then -(n : Int) else n), rest.drop digits.length)
      | none => none
    else some (none, text)
  | [] => some (none, [])

structure Numeral where
  negative : Bool
  whole : List Char
  fraction : List Char
  exponent : Option Int

def numeral? (text : List Char) : Option (Numeral × List Char) := do
  let (negative, text) := match text with
    | '-' :: rest => (true, rest)
    | text => (false, text)
  let (whole, text) ← wholePart? text
  let (fraction, text) ← fraction? text
  let (exponent, text) ← exponent? text
  return ({ negative, whole, fraction, exponent }, text)

def appendDigits (mantissa : Nat) : List Char → Nat × Nat
  | [] => (mantissa, 0)
  | c :: rest =>
    match Text.digitValue? 10 c with
    | none => (mantissa, 0)
    | some digit =>
      if 10 * mantissa + digit < UInt64.size then
        let (longer, count) := appendDigits (10 * mantissa + digit) rest
        (longer, count + 1)
      else (mantissa, 0)

/-- The value of a number. Digits past the 64 bits of the mantissa are left out; those in front of
the point still count as places. -/
def Numeral.value? (n : Numeral) : Option Value :=
  let (mantissa, places) := appendDigits 0 n.whole
  let isInteger := n.fraction.isEmpty && n.exponent.isNone && places == n.whole.length &&
    (!n.negative || (0 < mantissa && mantissa ≤ 0x8000000000000000))
  if isInteger then some (.int (if n.negative then -(mantissa : Int) else mantissa))
  else
    let (mantissa, decimals) := appendDigits mantissa n.fraction
    let scale : Int := n.exponent.getD 0 + (n.whole.length - places : Nat) - decimals
    (Real.ofDecimal? n.negative (UInt64.ofNat mantissa) scale).map Value.real

def number? (text : List Char) : Option (Value × List Char) := do
  let (numeral, text) ← numeral? text
  return (← numeral.value?, text)

def word? (word : String) (text : List Char) : Option (List Char) :=
  if word.toList.isPrefixOf text then some (text.drop word.length) else none

end OffloadBench.Json
