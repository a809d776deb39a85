import OffloadBench.Json.Skim

/-! # Reading JSON

One value and nothing after it but white space. Collections nest to a limited depth. A reader that
wants certain members of an object only skims the others.
-/
namespace OffloadBench.Json

mutual

def valueFrom : Nat → Nat → List Char → Option (Value × List Char)
  | 0, _, _ => none
  | fuel + 1, depth, text =>
    match skipSpace text with
    | [] => none
    | '[' :: rest =>
      match depth with
      | 0 => none
      | depth + 1 => itemsFrom fuel depth true [] rest
    | '{' :: rest =>
      match depth with
      | 0 => none
      | depth + 1 => membersFrom (fun _ => true) fuel depth true [] rest
    | '"' :: rest => (string? ('"' :: rest)).map fun (s, rest) => (.string s, rest)
    | 'n' :: rest => (word? "null" ('n' :: rest)).map fun rest => (.null, rest)
    | 't' :: rest => (word? "true" ('t' :: rest)).map fun rest => (.bool true, rest)
    | 'f' :: rest => (word? "false" ('f' :: rest)).map fun rest => (.bool false, rest)
    | text => number? text

def itemsFrom : Nat → Nat → Bool → List Value → List Char → Option (Value × List Char)
  | 0, _, _, _, _ => none
  | fuel + 1, depth, first, read, text =>
    match skipSpace text with
    | ']' :: rest => if first then some (.array [], rest) else none
    | text =>
      match valueFrom fuel depth text with
      | none => none
      | some (item, rest) =>
        match skipSpace rest with
        | ',' :: rest => itemsFrom fuel depth false (item :: read) rest
        | ']' :: rest => some (.array (item :: read).reverse, rest)
        | _ => none

/-- The members of an object behind those read so far, latest first. Values under names that are not
wanted are only skimmed. -/
def membersFrom (wanted : String → Bool) :
    Nat → Nat → Bool → List (String × Value) → List Char → Option (Value × List Char)
  | 0, _, _, _, _ => none
  | fuel + 1, depth, first, read, text =>
    match skipSpace text with
    | '}' :: rest => if first then some (.object [], rest) else none
    | text => do
      let (name, rest) ← string? text
      match skipSpace rest with
      | ':' :: rest =>
        let (read, rest) ←
          if wanted name then
            (valueFrom fuel depth rest).map fun (value, rest) => ((name, value) :: read, rest)
          else (skim? rest).map fun rest => (read, rest)
        match skipSpace rest with
        | ',' :: rest => membersFrom wanted fuel depth false read rest
        | '}' :: rest => some (.object read.reverse, rest)
        | _ => none
      | _ => none

end

def depthLimit : Nat := 127

def complete? (found : Option (Value × List Char)) : Option Value :=
  match found with
  | some (value, rest) => if (skipSpace rest).isEmpty then some value else none
  | none => none

def readingFuel (text : List Char) : Nat := 2 * text.length + 2

def Value.ofText? (text : String) : Option Value :=
  let text := text.toList
  complete? (valueFrom (readingFuel text) depthLimit text)

/-- The value of a text; if it is an object, with the members of the given names alone. The values
of others are not read, and need not be within the limits. -/
def Value.selecting? (names : List String) (text : String) : Option Value :=
  let text := text.toList
  complete? <|
    match skipSpace text with
    | '{' :: rest => membersFrom names.contains (readingFuel text) (depthLimit - 1) true [] rest
    | text => valueFrom (readingFuel text) depthLimit text

end OffloadBench.Json
