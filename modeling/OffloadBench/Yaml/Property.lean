import OffloadBench.Text.Numeral
import OffloadBench.Yaml.Cursor
import OffloadBench.Yaml.Token

/-! # Properties and directives

Anchors, aliases and tags stand in front of a node; directives stand in front of a document.
-/
namespace OffloadBench.Yaml

def isTagChar (verbatim : Bool) (c : Char) : Bool :=
  isWord c || ";/?:@&=+$.!~*'()".toList.contains c ||
    (verbatim && (c == ',' || c == '[' || c == ']'))

def charWidth? (first : UInt8) : Option Nat :=
  if first < 0x80 then some 1
  else if 0xC0 ≤ first && first < 0xE0 then some 2
  else if 0xE0 ≤ first && first < 0xF0 then some 3
  else if 0xF0 ≤ first && first < 0xF8 then some 4
  else none

def escapedByte? (c : Cursor) : Option (UInt8 × Cursor) :=
  match c.rest with
  | '%' :: a :: b :: _ => (Text.digits? 16 [a, b]).map fun n => (UInt8.ofNat n, c.advance 3)
  | _ => none

def escapedTail? : Nat → Cursor → Option (List UInt8 × Cursor)
  | 0, c => some ([], c)
  | count + 1, c => do
    let (byte, c) ← escapedByte? c
    if 0x80 ≤ byte && byte < 0xC0 then
      let (bytes, c) ← escapedTail? count c
      return (byte :: bytes, c)
    else none

/-- The bytes of a character that is written in percent escapes. They only have the shape of a
character; whether there is one behind it does not matter. -/
def escapedChar? (c : Cursor) : Option (List UInt8 × Cursor) := do
  let (first, c) ← escapedByte? c
  let width ← charWidth? first
  let (bytes, c) ← escapedTail? (width - 1) c
  return (first :: bytes, c)

def tagBytes (verbatim : Bool) :
    Nat → List UInt8 → Cursor → Except SyntaxError (List UInt8 × Cursor)
  | 0, read, c => .ok (read.reverse, c)
  | fuel + 1, read, c =>
    match c.peek with
    | some '%' =>
      match escapedChar? c with
      | some (bytes, c) => tagBytes verbatim fuel (bytes.reverse ++ read) c
      | none => .error .badTag
    | some ch =>
      if isTagChar verbatim ch then tagBytes verbatim fuel (UInt8.ofNat ch.toNat :: read) c.skip
      else .ok (read.reverse, c)
    | none => .ok (read.reverse, c)

def readTagBytes (verbatim : Bool) (c : Cursor) : Except SyntaxError (List UInt8 × Cursor) :=
  tagBytes verbatim (c.rest.length + 1) [] c

def readTag (verbatim : Bool) (c : Cursor) : Except SyntaxError (Tag × Cursor) := do
  let (bytes, c) ← readTagBytes verbatim c
  if bytes.isEmpty then .error .badTag else return (.ofBytes bytes, c)

def tagHandle (c : Cursor) : List Char × Cursor :=
  let (name, c) := c.skip.takeWhile isWord
  if c.peek = some '!' then ('!' :: name ++ ['!'], c.skip) else ('!' :: name, c)

def verbatimTag (c : Cursor) : Except SyntaxError (Token × Cursor) := do
  let (tag, c) ← readTag true (c.advance 2)
  if c.peek = some '>' then return (.tag "" tag, c.skip) else .error .badTag

/-- A tag behind a handle, or behind the handle of a single exclamation mark. -/
def handledTag (c : Cursor) : Except SyntaxError (Token × Cursor) := do
  let (handle, c) := tagHandle c
  if handle.length ≥ 2 && handle.getLast? = some '!' then
    let (suffix, c) ← readTag false c
    return (.tag (String.ofList handle) suffix, c)
  else
    let (bytes, c) ← readTagBytes false c
    let suffix := Tag.ofChars (handle.drop 1) ++ Tag.ofBytes bytes
    if suffix.isEmpty then return (.tag "" .nonSpecific, c) else return (.tag "!" suffix, c)

def tag (flow : Bool) (c : Cursor) : Except SyntaxError (Token × Cursor) := do
  let (token, c) ← if c.holdsAt 1 (· == '<') then verbatimTag c else handledTag c
  if c.endsAt 0 || (flow && c.peek = some ',') then return (token, c) else .error .badTag

def anchorName (c : Cursor) : Except SyntaxError (String × Cursor) :=
  let (name, c) := c.skip.takeWhile isWord
  let ends := c.endsAt 0 || c.holdsAt 0 fun ch => "?:,]\x7d%@`".toList.contains ch
  if name.isEmpty || !ends then .error .badAnchor else .ok (String.ofList name, c)

def versionNumber (c : Cursor) : Except SyntaxError (Nat × Cursor) :=
  let (written, c) := c.takeWhile Char.isDigit
  match Text.digits? 10 written with
  | some n => if written.length ≤ 9 then .ok (n, c) else .error .badDirective
  | none => .error .badDirective

def versionDirective (c : Cursor) : Except SyntaxError (Token × Cursor) := do
  let (major, c) ← versionNumber c.skipBlanks
  if c.peek ≠ some '.' then .error .badDirective
  else
    let (minor, c) ← versionNumber c.skip
    return (.versionDirective major minor, c)

def tagDirective (c : Cursor) : Except SyntaxError (Token × Cursor) := do
  let c := c.skipBlanks
  if c.peek ≠ some '!' then .error .badDirective
  else
    let (handle, c) := tagHandle c
    if (handle.length ≥ 2 && handle.getLast? ≠ some '!') || !c.holdsAt 0 isBlank then
      .error .badDirective
    else
      let (lead, c) ← readTag true c.skipBlanks
      if c.endsAt 0 then return (.tagDirective (String.ofList handle) lead, c)
      else .error .badDirective

def directive (c : Cursor) : Except SyntaxError (Token × Cursor) := do
  let (name, c) := c.skip.takeWhile isWord
  let (token, c) ←
    if !c.endsAt 0 then .error .badDirective
    else if name = "YAML".toList then versionDirective c
    else if name = "TAG".toList then tagDirective c
    else .error .badDirective
  let c := c.skipBlanks.skipComment
  match c.peek with
  | none => return (token, c)
  | some ch => if isBreak ch then return (token, c.readBreak.2) else .error .badDirective

end OffloadBench.Yaml
