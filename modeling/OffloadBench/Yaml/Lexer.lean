import OffloadBench.Yaml.Property
import OffloadBench.Yaml.Scalar

/-! # From text to tokens

Indentation opens and closes block collections. A key need not be marked: whatever could be one is
remembered, and a colon on the same line and within 1024 characters turns it into one, with the
tokens for it put in where it started.
-/
namespace OffloadBench.Yaml

/-- A place that may turn out to be a key. -/
structure PossibleKey where
  /-- At this place there can only be a key. -/
  required : Bool
  /-- The number of tokens before it. -/
  position : Nat
  start : Cursor

structure Lexer where
  cursor : Cursor
  tokens : Array Token := #[]
  /-- The column of the innermost block collection, -1 outside of any. -/
  indent : Int := -1
  /-- The columns of the block collections around it. -/
  outer : List Int := []
  /-- The key that the innermost collection may be at. -/
  possible : Option PossibleKey := none
  /-- The same for the collections around a flow collection. -/
  suspended : List (Option PossibleKey) := []
  keyAllowed : Bool := true

namespace Lexer

def inFlow (l : Lexer) : Bool := !l.suspended.isEmpty

def push (l : Lexer) (token : Token) : Lexer := { l with tokens := l.tokens.push token }

def allowKey (l : Lexer) (allowed : Bool) : Lexer := { l with keyAllowed := allowed }

def moveTo (l : Lexer) (c : Cursor) : Lexer := { l with cursor := c }

/-- Gives up the possible key; a required one must not be given up. -/
def dropKey (l : Lexer) : Except SyntaxError Lexer :=
  if l.possible.any (·.required) then .error .missingColon else .ok { l with possible := none }

/-- The key started on another line or too far back. -/
def isStale (c : Cursor) (k : PossibleKey) : Bool :=
  k.start.line < c.line || k.start.index + 1024 < c.index

def dropStaleKeys (l : Lexer) : Except SyntaxError Lexer :=
  let stale := isStale l.cursor
  if (l.possible :: l.suspended).any fun k => k.any fun k => k.required && stale k then
    .error .missingColon
  else
    .ok { l with
      possible := l.possible.filter (!stale ·)
      suspended := l.suspended.map (·.filter (!stale ·)) }

def noteKey (l : Lexer) : Except SyntaxError Lexer :=
  if l.keyAllowed then do
    let l ← l.dropKey
    let required := !l.inFlow && l.indent == l.cursor.column
    return { l with possible := some ⟨required, l.tokens.size, l.cursor⟩ }
  else .ok l

def closeBlocks (column : Int) : Nat → Lexer → Lexer
  | 0, l => l
  | fuel + 1, l =>
    if !l.inFlow && column < l.indent then
      match l.outer with
      | indent :: outer =>
        closeBlocks column fuel { l.push .blockEnd with indent := indent, outer := outer }
      | [] => l
    else l

def closeBlocksTo (l : Lexer) (column : Int) : Lexer := closeBlocks column l.outer.length l

/-- Opens a block collection at a column right of the innermost one, in front of the token of the
given position. -/
def openBlock (l : Lexer) (column position : Nat) (token : Token) : Lexer :=
  if !l.inFlow && l.indent < column then
    { l with
      indent := column
      outer := l.indent :: l.outer
      tokens := l.tokens.insertIdxIfInBounds position token }
  else l

def openBlockHere (l : Lexer) (token : Token) : Lexer :=
  l.openBlock l.cursor.column l.tokens.size token

/-- Passes spaces, comments and line ends. A byte order mark may start a line, and tabs may stand
where no key can start. -/
def skipSpace : Nat → Lexer → Lexer
  | 0, l => l
  | fuel + 1, l =>
    let tabs := l.inFlow || !l.keyAllowed
    let c := l.cursor.skipMark.skipWhile fun ch => ch == ' ' || (tabs && ch == '\t')
    let c := c.skipComment
    match c.peek with
    | some ch =>
      if isBreak ch then
        skipSpace fuel { l with cursor := c.readBreak.2, keyAllowed := l.keyAllowed || !l.inFlow }
      else l.moveTo c
    | none => l.moveTo c

def documentMarker (l : Lexer) (token : Token) : Except SyntaxError Lexer := do
  let l ← (l.closeBlocksTo (-1)).dropKey
  return ((l.push token).moveTo (l.cursor.advance 3)).allowKey false

def flowStart (l : Lexer) (token : Token) : Except SyntaxError Lexer := do
  let l ← l.noteKey
  let l := { l with possible := none, suspended := l.possible :: l.suspended }
  return ((l.push token).moveTo l.cursor.skip).allowKey true

def flowEnd (l : Lexer) (token : Token) : Except SyntaxError Lexer := do
  let l ← l.dropKey
  let l := match l.suspended with
    | k :: suspended => { l with possible := k, suspended := suspended }
    | [] => l
  return ((l.push token).moveTo l.cursor.skip).allowKey false

def flowEntry (l : Lexer) : Except SyntaxError Lexer := do
  let l ← l.dropKey
  return ((l.push .flowEntry).moveTo l.cursor.skip).allowKey true

def blockEntry (l : Lexer) : Except SyntaxError Lexer := do
  if !l.inFlow && !l.keyAllowed then .error .misplacedEntry
  else
    let l ← (l.openBlockHere .blockSequenceStart).dropKey
    return ((l.push .blockEntry).moveTo l.cursor.skip).allowKey true

def explicitKey (l : Lexer) : Except SyntaxError Lexer := do
  if !l.inFlow && !l.keyAllowed then .error .misplacedKey
  else
    let l ← (l.openBlockHere .blockMappingStart).dropKey
    return ((l.push .key).moveTo l.cursor.skip).allowKey (!l.inFlow)

/-- A colon makes a key of what may have been one. Otherwise it belongs to a marked or empty key. -/
def value (l : Lexer) : Except SyntaxError Lexer :=
  match l.possible with
  | some k =>
    let l := { l with
      tokens := l.tokens.insertIdxIfInBounds k.position .key
      possible := none }
    let l := l.openBlock k.start.column k.position .blockMappingStart
    .ok (((l.push .value).moveTo l.cursor.skip).allowKey false)
  | none =>
    if !l.inFlow && !l.keyAllowed then .error .misplacedValue
    else
      let l := l.openBlockHere .blockMappingStart
      .ok (((l.push .value).moveTo l.cursor.skip).allowKey (!l.inFlow))

def content (l : Lexer) (read : Cursor → Except SyntaxError (Token × Cursor)) :
    Except SyntaxError Lexer := do
  let l ← l.noteKey
  let (token, c) ← read l.cursor
  return ((l.push token).moveTo c).allowKey false

def least (l : Lexer) : Nat := (l.indent + 1).toNat

def blockScalar (l : Lexer) (style : Style) : Except SyntaxError Lexer := do
  let l ← l.dropKey
  let (text, c) ← block (style == .folded) l.least l.cursor
  return ((l.push (.scalar style text)).moveTo c).allowKey true

def plainScalar (l : Lexer) : Except SyntaxError Lexer := do
  let l ← l.noteKey
  let (text, broken, c) ← plain l.inFlow l.least l.cursor
  return ((l.push (.scalar .plain text)).moveTo c).allowKey broken

def quotedScalar (style : Style) (quote : Char) (c : Cursor) :
    Except SyntaxError (Token × Cursor) := do
  let (text, c) ← quoted quote c
  return (.scalar style text, c)

def anchored (token : String → Token) (c : Cursor) : Except SyntaxError (Token × Cursor) := do
  let (name, c) ← anchorName c
  return (token name, c)

def startsPlain (l : Lexer) (ch : Char) : Bool :=
  if ch = '-' then !l.cursor.holdsAt 1 isBlank
  else if ch = '?' || ch = ':' then !l.inFlow && !l.cursor.endsAt 1
  else !(isBlank ch || isBreak ch || ",[]\x7b\x7d#&*!|>'\"%@`".toList.contains ch)

def token (l : Lexer) (ch : Char) : Except SyntaxError Lexer :=
  let c := l.cursor
  if c.column = 0 && ch = '%' then do
    let l ← (l.closeBlocksTo (-1)).dropKey
    let (token, c) ← directive c
    return ((l.push token).moveTo c).allowKey false
  else if c.isMarker '-' then l.documentMarker .documentStart
  else if c.isMarker '.' then l.documentMarker .documentEnd
  else if ch = '[' then l.flowStart .flowSequenceStart
  else if ch = '{' then l.flowStart .flowMappingStart
  else if ch = ']' then l.flowEnd .flowSequenceEnd
  else if ch = '}' then l.flowEnd .flowMappingEnd
  else if ch = ',' then l.flowEntry
  else if ch = '-' && c.endsAt 1 then l.blockEntry
  else if ch = '?' && (l.inFlow || c.endsAt 1) then l.explicitKey
  else if ch = ':' && (l.inFlow || c.endsAt 1) then l.value
  else if ch = '*' then l.content (anchored .alias)
  else if ch = '&' then l.content (anchored .anchor)
  else if ch = '!' then l.content (tag l.inFlow)
  else if ch = '|' && !l.inFlow then l.blockScalar .literal
  else if ch = '>' && !l.inFlow then l.blockScalar .folded
  else if ch = '\'' then l.content (quotedScalar .singleQuoted '\'')
  else if ch = '"' then l.content (quotedScalar .doubleQuoted '"')
  else if l.startsPlain ch then l.plainScalar
  else .error .unexpectedCharacter

def finish (l : Lexer) : Except SyntaxError Lexer := do
  let l ← (l.closeBlocksTo (-1)).dropKey
  return l.push .streamEnd

def run : Nat → Lexer → Except SyntaxError Lexer
  | 0, l => l.finish
  | fuel + 1, l => do
    let l ← (skipSpace (l.cursor.rest.length + 1) l).dropStaleKeys
    let l := l.closeBlocksTo l.cursor.column
    match l.cursor.peek with
    | none => l.finish
    | some ch => run fuel (← l.token ch)

end Lexer

def tokens (text : List Char) : Except SyntaxError (List Token) := do
  if text.all isAllowed then
    let l ← Lexer.run (text.length + 1) { cursor := { rest := text } }
    return l.tokens.toList
  else .error .forbiddenCharacter

end OffloadBench.Yaml
