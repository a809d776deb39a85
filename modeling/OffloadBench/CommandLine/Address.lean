import OffloadBench.Text.Numeral

/-! # Socket addresses

An address of four decimal bytes, or of eight hexadecimal groups between brackets, and a port.
-/
namespace OffloadBench.CommandLine
open Text

inductive Address
  | v4 (bytes : List Nat) (port : Nat)
  | v6 (groups : List Nat) (scope : Option Nat) (port : Nat)
  deriving DecidableEq, Repr

namespace Address

def number? (base bound most : Nat) (idleZero : Bool) (text : List Char) :
    Option (Nat × List Char) :=
  let written := text.takeWhile fun c => (digitValue? base c).isSome
  match digits? base written with
  | none => none
  | some n =>
    if bound ≤ n || most < written.length ||
        (!idleZero && written.head? = some '0' && written.length > 1) then none
    else some (n, text.drop written.length)

def char? (c : Char) : List Char → Option (List Char)
  | d :: rest => if c = d then some rest else none
  | [] => none

/-- The text behind a separator, which the first part of several goes without. -/
def separated? (separator : Char) (first : Bool) (text : List Char) : Option (List Char) :=
  if first then some text else char? separator text

def bytes? (text : List Char) : Option (List Nat × List Char) := do
  let byte := number? 10 256 3 false
  let (a, text) ← byte text
  let (b, text) ← byte (← char? '.' text)
  let (c, text) ← byte (← char? '.' text)
  let (d, text) ← byte (← char? '.' text)
  return ([a, b, c, d], text)

/-- As many groups as there are, up to a limit; four bytes may stand for the last two. -/
def groups : Nat → Bool → List Char → List Nat × Bool × List Char
  | 0, _, text => ([], false, text)
  | limit + 1, first, text =>
    let bytes := if limit = 0 then none else (separated? ':' first text).bind bytes?
    match bytes with
    | some ([a, b, c, d], rest) => ([256 * a + b, 256 * c + d], true, rest)
    | _ =>
      match (separated? ':' first text).bind (number? 16 65536 4 true) with
      | some (group, rest) =>
        let (more, isBytes, rest) := groups limit false rest
        (group :: more, isBytes, rest)
      | none => ([], false, text)

def allGroups? (text : List Char) : Option (List Nat × List Char) :=
  let (head, isBytes, text) := groups 8 true text
  if head.length = 8 then some (head, text)
  else if isBytes then none
  else
    match text with
    | ':' :: ':' :: rest =>
      let (tail, _, rest) := groups (7 - head.length) true rest
      some (head ++ List.replicate (8 - head.length - tail.length) 0 ++ tail, rest)
    | _ => none

def port? (text : List Char) : Option Nat := do
  let rest ← char? ':' text
  match number? 10 65536 rest.length true rest with
  | some (port, []) => some port
  | _ => none

def scope? (text : List Char) : Option (Option Nat × List Char) :=
  match char? '%' text with
  | none => some (none, text)
  | some rest =>
    (number? 10 UInt32.size rest.length true rest).map fun (scope, rest) => (some scope, rest)

def v4? (text : List Char) : Option Address := do
  let (bytes, text) ← bytes? text
  return .v4 bytes (← port? text)

def v6? (text : List Char) : Option Address := do
  let (groups, text) ← allGroups? (← char? '[' text)
  let (scope, text) ← scope? text
  return .v6 groups scope (← port? (← char? ']' text))

def ofText? (text : String) : Option Address := (v4? text.toList).orElse fun _ => v6? text.toList

def toText : Address → String
  | .v4 bytes port => ".".intercalate (bytes.map decimal) ++ ":" ++ decimal port
  | .v6 groups scope port =>
    "[" ++ ":".intercalate (groups.map hex) ++ ((scope.map fun n => "%" ++ decimal n).getD "") ++
      "]:" ++ decimal port

end Address

end OffloadBench.CommandLine
