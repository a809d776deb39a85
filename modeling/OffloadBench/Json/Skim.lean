import OffloadBench.Json.Scalar

/-! # Skimming JSON

Passing over a value without reading it. What is passed has the form of a value, but its numbers may
be out of range, its escapes may name half of a pair, and its collections nest to any depth.
-/
namespace OffloadBench.Json

def skimString? : List Char → Option (List Char)
  | [] => none
  | '"' :: rest => some rest
  | '\\' :: 'u' :: a :: b :: c :: d :: rest =>
    if (Text.digits? 16 [a, b, c, d]).isSome then skimString? rest else none
  | '\\' :: name :: rest => if (namedEscape? name).isSome then skimString? rest else none
  | c :: rest => if c.toNat < 0x20 then none else skimString? rest

def skimScalar? (text : List Char) : Option (List Char) :=
  match text with
  | '"' :: rest => skimString? rest
  | 'n' :: _ => word? "null" text
  | 't' :: _ => word? "true" text
  | 'f' :: _ => word? "false" text
  | _ => (numeral? text).map (·.2)

inductive Collection
  | array
  | object

def Collection.closing : Collection → Char
  | .array => ']'
  | .object => '}'

def Collection.toValue? : Collection → List Char → Option (List Char)
  | .array, text => some text
  | .object, text =>
    match skipSpace text with
    | '"' :: rest => do
      match skipSpace (← skimString? rest) with
      | ':' :: rest => some rest
      | _ => none
    | _ => none

/-- A place between the values of a text: the collections that are open, the innermost one first,
whether an entry of that one has just ended, and what is left of the text. -/
structure Skim where
  opened : List Collection
  behindEntry : Bool
  rest : List Char

namespace Skim

def enter? (opened : List Collection) (text : List Char) : Option Skim :=
  match skipSpace text with
  | '[' :: rest => some ⟨.array :: opened, false, rest⟩
  | '{' :: rest => some ⟨.object :: opened, false, rest⟩
  | text => (skimScalar? text).map fun rest => ⟨opened, true, rest⟩

def step? (innermost : Collection) (outer : List Collection) (s : Skim) : Option Skim :=
  match skipSpace s.rest with
  | [] => none
  | c :: rest =>
    if c = innermost.closing then some ⟨outer, true, rest⟩
    else if s.behindEntry then
      if c = ',' then (innermost.toValue? rest).bind (enter? s.opened) else none
    else (innermost.toValue? (c :: rest)).bind (enter? s.opened)

def run? : Nat → Skim → Option (List Char)
  | fuel, s =>
    match s.opened, fuel with
    | [], _ => some s.rest
    | _, 0 => none
    | innermost :: outer, fuel + 1 =>
      match step? innermost outer s with
      | some s => run? fuel s
      | none => none

end Skim

def skim? (text : List Char) : Option (List Char) :=
  (Skim.enter? [] text).bind (Skim.run? text.length)

end OffloadBench.Json
