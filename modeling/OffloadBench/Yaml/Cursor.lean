/-! # Cursor

A place in a text: what is left to read, and the line, the column and the number of characters
passed. A line ends at a carriage return, a line feed, the two together, a next line, a line
separator or a paragraph separator.
-/
namespace OffloadBench.Yaml

def isAllowed (c : Char) : Bool :=
  let n := c.toNat
  n == 0x09 || n == 0x0A || n == 0x0D || (0x20 ≤ n && n ≤ 0x7E) || n == 0x85 ||
    (0xA0 ≤ n && n ≤ 0xD7FF) || (0xE000 ≤ n && n ≤ 0xFFFD) || 0x10000 ≤ n

def isBreak (c : Char) : Bool :=
  c == '\n' || c == '\r' || c == '\u0085' || c == '\u2028' || c == '\u2029'

def isBlank (c : Char) : Bool := c == ' ' || c == '\t'

def isWord (c : Char) : Bool := c.isAlphanum || c == '-' || c == '_'

structure Cursor where
  rest : List Char
  line : Nat := 0
  column : Nat := 0
  index : Nat := 0
  deriving DecidableEq, Repr

namespace Cursor

def peek (c : Cursor) : Option Char := c.rest.head?

def holdsAt (c : Cursor) (offset : Nat) (p : Char → Bool) : Bool := (c.rest[offset]?).any p

def endsAt (c : Cursor) (offset : Nat) : Bool :=
  (c.rest[offset]?).all fun ch => isBlank ch || isBreak ch

def advance (c : Cursor) (n : Nat) : Cursor :=
  { c with rest := c.rest.drop n, column := c.column + n, index := c.index + n }

def skip (c : Cursor) : Cursor := c.advance 1

def takeWhile (c : Cursor) (p : Char → Bool) : List Char × Cursor :=
  let taken := c.rest.takeWhile p
  (taken, c.advance taken.length)

def skipWhile (c : Cursor) (p : Char → Bool) : Cursor := (c.takeWhile p).2

def skipBlanks (c : Cursor) : Cursor := c.skipWhile isBlank

/-- Passes a line's end; all but the separators of lines and paragraphs count as a line feed. -/
def readBreak (c : Cursor) : Char × Cursor :=
  let next (n : Nat) : Cursor :=
    { rest := c.rest.drop n, line := c.line + 1, column := 0, index := c.index + n }
  match c.rest with
  | '\r' :: '\n' :: _ => ('\n', next 2)
  | '\u2028' :: _ => ('\u2028', next 1)
  | '\u2029' :: _ => ('\u2029', next 1)
  | _ => ('\n', next 1)

/-- Passes a byte order mark that starts a line; it takes a column there. -/
def skipMark (c : Cursor) : Cursor :=
  if c.column = 0 && c.peek = some '\ufeff' then c.skip else c

def skipComment (c : Cursor) : Cursor :=
  if c.peek = some '#' then c.skipWhile fun ch => !isBreak ch else c

/-- At the start of a line stand three times the given character, and then no more of a word. -/
def isMarker (c : Cursor) (mark : Char) : Bool :=
  c.column == 0 && [mark, mark, mark].isPrefixOf c.rest && c.endsAt 3

def isDocumentMarker (c : Cursor) : Bool := c.isMarker '-' || c.isMarker '.'

end Cursor

end OffloadBench.Yaml
