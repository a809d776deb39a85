import OffloadBench.Text.Numeral
import OffloadBench.Yaml.Cursor
import OffloadBench.Yaml.Token

/-! # Scalars

The text of plain, quoted and block scalars. Where a plain or quoted scalar goes over several lines,
a single line's end between words counts as a space, and of several line ends the first is left out.
-/
namespace OffloadBench.Yaml

structure Gap where
  blanks : List Char := []
  /-- The line's end before was escaped. -/
  escaped : Bool := false
  breaks : List Char := []

namespace Gap

def isBroken (g : Gap) : Bool := g.escaped || !g.breaks.isEmpty

def isEmpty (g : Gap) : Bool := g.blanks.isEmpty && !g.isBroken

def fold (g : Gap) : List Char :=
  if g.escaped then g.breaks
  else
    match g.breaks with
    | [] => g.blanks
    | ['\n'] => [' ']
    | '\n' :: more => more
    | breaks => breaks

/-- Reads on in a gap. In a broken gap, no tab may stand left of the given column. -/
def read (least : Nat) : Nat → Gap → Cursor → Except SyntaxError (Gap × Cursor)
  | 0, g, c => .ok (g, c)
  | fuel + 1, g, c =>
    match c.peek with
    | none => .ok (g, c)
    | some ch =>
      if isBlank ch then
        if g.isBroken then
          if ch = '\t' ∧ c.column < least then .error .badTab else read least fuel g c.skip
        else read least fuel { g with blanks := g.blanks ++ [ch] } c.skip
      else if isBreak ch then
        let (b, c) := c.readBreak
        read least fuel { g with breaks := g.breaks ++ [b] } c
      else .ok (g, c)

end Gap

def readGap (least : Nat) (g : Gap) (c : Cursor) : Except SyntaxError (Gap × Cursor) :=
  g.read least c.rest.length c

def isFlowIndicator (c : Char) : Bool :=
  c == ',' || c == '[' || c == ']' || c == '{' || c == '}'

/-- Reads a plain scalar behind a text read so far, given in reverse, and a gap. Outside of flow
collections, a line that starts left of the given column does not belong to it. -/
def plainFrom (flow : Bool) (least : Nat) :
    Nat → List Char → Gap → Cursor → Except SyntaxError (List Char × Gap × Cursor)
  | 0, read, gap, c => .ok (read.reverse, gap, c)
  | fuel + 1, read, gap, c =>
    if c.isDocumentMarker then .ok (read.reverse, gap, c)
    else
      match c.peek with
      | none => .ok (read.reverse, gap, c)
      | some ch =>
        if ch = '#' && !gap.isEmpty then .ok (read.reverse, gap, c)
        else if isBlank ch || isBreak ch then do
          let (gap, c) ← readGap least {} c
          if !flow && c.column < least then .ok (read.reverse, gap, c)
          else plainFrom flow least fuel read gap c
        else if flow && ch = ':' && c.holdsAt 1 fun n => isFlowIndicator n || n == '?' then
          .error .unexpectedColon
        else if (ch = ':' && c.endsAt 1) || (flow && isFlowIndicator ch) then
          .ok (read.reverse, gap, c)
        else plainFrom flow least fuel (ch :: (gap.fold.reverse ++ read)) {} c.skip

def plain (flow : Bool) (least : Nat) (c : Cursor) :
    Except SyntaxError (String × Bool × Cursor) := do
  let (text, gap, c) ← plainFrom flow least (2 * c.rest.length + 1) [] {} c
  return (String.ofList text, gap.isBroken, c)

def namedEscape? : Char → Option Char
  | '0' => some '\x00'
  | 'a' => some '\x07'
  | 'b' => some '\x08'
  | 't' => some '\t'
  | '\t' => some '\t'
  | 'n' => some '\n'
  | 'v' => some '\x0b'
  | 'f' => some '\x0c'
  | 'r' => some '\r'
  | 'e' => some '\x1b'
  | ' ' => some ' '
  | '"' => some '"'
  | '/' => some '/'
  | '\\' => some '\\'
  | 'N' => some '\u0085'
  | '_' => some '\u00a0'
  | 'L' => some '\u2028'
  | 'P' => some '\u2029'
  | _ => none

def escapeLength? : Char → Option Nat
  | 'x' => some 2
  | 'u' => some 4
  | 'U' => some 8
  | _ => none

def escape (c : Cursor) : Except SyntaxError (Char × Cursor) :=
  match c.peek with
  | none => .error .badEscape
  | some name =>
    match namedEscape? name, escapeLength? name with
    | some ch, _ => .ok (ch, c.skip)
    | none, some n =>
      let written := c.skip.rest.take n
      match Text.digits? 16 written with
      | some code =>
        if written.length = n ∧ Nat.isValidChar code then .ok (Char.ofNat code, c.advance (n + 1))
        else .error .badEscape
      | none => .error .badEscape
    | none, none => .error .badEscape

def quotedFrom (quote : Char) : Nat → List Char → Cursor → Except SyntaxError (List Char × Cursor)
  | 0, _, _ => .error .unterminated
  | fuel + 1, read, c =>
    if c.isDocumentMarker then .error .unexpectedMarker
    else
      match c.peek with
      | none => .error .unterminated
      | some ch =>
        if ch = quote then
          if quote = '\'' && c.holdsAt 1 (· == '\'') then
            quotedFrom quote fuel ('\'' :: read) (c.advance 2)
          else .ok (read.reverse, c.skip)
        else if isBlank ch || isBreak ch then do
          let (gap, c) ← readGap 0 {} c
          quotedFrom quote fuel (gap.fold.reverse ++ read) c
        else if quote = '"' && ch = '\\' then
          if c.holdsAt 1 isBreak then do
            let (gap, c) ← readGap 0 { escaped := true } c.skip.readBreak.2
            quotedFrom quote fuel (gap.fold.reverse ++ read) c
          else do
            let (ch, c) ← escape c.skip
            quotedFrom quote fuel (ch :: read) c
        else quotedFrom quote fuel (ch :: read) c.skip

def quoted (quote : Char) (c : Cursor) : Except SyntaxError (String × Cursor) := do
  let (text, c) ← quotedFrom quote (c.rest.length + 1) [] c.skip
  return (String.ofList text, c)

/-- What becomes of the line ends that close a block scalar. -/
inductive Chomping
  | strip
  | clip
  | keep
  deriving DecidableEq, Repr

def chomping? : Option Char → Option Chomping
  | some '-' => some .strip
  | some '+' => some .keep
  | _ => none

def increment (c : Cursor) : Except SyntaxError (Nat × Cursor) :=
  match c.peek with
  | some ch =>
    if ch = '0' then .error .badBlockHeader
    else if ch.isDigit then .ok (ch.toNat - '0'.toNat, c.skip)
    else .ok (0, c)
  | none => .ok (0, c)

def blockHeader (c : Cursor) : Except SyntaxError (Chomping × Nat × Cursor) := do
  let (chomping, width, c) ←
    match chomping? c.peek with
    | some chomping => do
      let (width, c) ← increment c.skip
      pure (chomping, width, c)
    | none => do
      let (width, c) ← increment c
      match width, chomping? c.peek with
      | _ + 1, some chomping => pure (chomping, width, c.skip)
      | _, _ => pure (.clip, width, c)
  let c := c.skipBlanks.skipComment
  match c.peek with
  | none => return (chomping, width, c)
  | some ch =>
    if isBreak ch then return (chomping, width, c.readBreak.2) else .error .badBlockHeader

/-- Reads the empty lines in front of a line of a block scalar, and that line's indentation. The
columns seen so far bound an indentation that is still open (zero). -/
def blockBreaks (indent : Nat) :
    Nat → Nat → List Char → Cursor → Except SyntaxError (Nat × List Char × Cursor)
  | 0, most, breaks, c => .ok (most, breaks, c)
  | fuel + 1, most, breaks, c =>
    let spaces := (c.rest.takeWhile (· == ' ')).length
    let c := c.advance (if indent = 0 then spaces else min spaces (indent - c.column))
    let most := max most c.column
    match c.peek with
    | none => .ok (most, breaks, c)
    | some ch =>
      if ch = '\t' && (indent == 0 || c.column < indent) then .error .badTab
      else if isBreak ch then
        let (b, c) := c.readBreak
        blockBreaks indent fuel most (breaks ++ [b]) c
      else .ok (most, breaks, c)

structure BlockText where
  text : List Char := []
  /-- The end of the last line. -/
  ending : List Char := []
  /-- The ends of the empty lines after it. -/
  breaks : List Char := []
  /-- The last line starts with a blank. -/
  blank : Bool := false

/-- Joins a line to the ones before it. A folded scalar turns a line's end between two lines that
start with no blank into a space. -/
def BlockText.join (folded : Bool) (b : BlockText) (blank : Bool) : List Char :=
  if folded && b.ending == ['\n'] && !b.blank && !blank then
    b.text ++ (if b.breaks.isEmpty then [' '] else b.breaks)
  else b.text ++ b.ending ++ b.breaks

def blockLines (folded : Bool) (indent : Nat) :
    Nat → BlockText → Cursor → Except SyntaxError (BlockText × Cursor)
  | 0, b, c => .ok (b, c)
  | fuel + 1, b, c =>
    match c.peek with
    | none => .ok (b, c)
    | some ch =>
      if c.column = indent then do
        let text := b.join folded (isBlank ch)
        let (line, c) := c.takeWhile fun ch => !isBreak ch
        let (ending, c) := match c.peek with
          | some _ => let (e, c) := c.readBreak; ([e], c)
          | none => ([], c)
        let (_, breaks, c) ← blockBreaks indent (c.rest.length + 1) 0 [] c
        blockLines folded indent fuel ⟨text ++ line, ending, breaks, isBlank ch⟩ c
      else .ok (b, c)

def block (folded : Bool) (least : Nat) (c : Cursor) : Except SyntaxError (String × Cursor) := do
  let (chomping, width, c) ← blockHeader c.skip
  let given := if width = 0 then 0 else (least - 1) + width
  let (most, breaks, c) ← blockBreaks given (c.rest.length + 1) 0 [] c
  let indent := if given = 0 then max (max most least) 1 else given
  let (b, c) ← blockLines folded indent (c.rest.length + 1) { breaks } c
  let ending := if chomping = .strip then [] else b.ending
  let breaks := if chomping = .keep then b.breaks else []
  return (String.ofList (b.text ++ ending ++ breaks), c)

end OffloadBench.Yaml
