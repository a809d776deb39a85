import OffloadBench.Text.Numeral

/-! # Plain values

How the text of a plain scalar is read as nothing, as a truth value or as a natural number.
-/
namespace OffloadBench.Yaml

def isNull (text : String) : Bool :=
  text == "~" || text == "null" || text == "Null" || text == "NULL"

def truth? (text : String) : Option Bool :=
  if text = "true" ∨ text = "True" ∨ text = "TRUE" then some true
  else if text = "false" ∨ text = "False" ∨ text = "FALSE" then some false
  else none

def hasIdleZero (digits : List Char) : Bool :=
  match digits with
  | '0' :: rest => !rest.isEmpty && rest.all Char.isDigit
  | _ => false

/-- A natural number below a bound: decimal, or in base 16, 8 or 2 behind its mark. One plus sign
may stand in front. -/
def natural? (bound : Nat) (text : String) : Option Nat :=
  let body := match text.toList with
    | '+' :: rest => rest
    | body => body
  let value := match body with
    | '0' :: 'x' :: digits => Text.digits? 16 digits
    | '0' :: 'o' :: digits => Text.digits? 8 digits
    | '0' :: 'b' :: digits => Text.digits? 2 digits
    | _ => if hasIdleZero body then none else Text.digits? 10 body
  value.filter (· < bound)

end OffloadBench.Yaml
