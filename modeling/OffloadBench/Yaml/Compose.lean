import OffloadBench.Yaml.Lexer
import OffloadBench.Yaml.Node

/-! # From tokens to a document -/
namespace OffloadBench.Yaml

/-- The tokens that are left, the tag handles, the slots of the anchors' names, and the slot and the
node of each anchor met so far. -/
structure Composer where
  tokens : List Token
  handles : List (String × Tag) := []
  names : List (String × Nat) := []
  anchors : Array (Nat × Node) := #[]

namespace Composer

def head (s : Composer) : Token := s.tokens.headD .streamEnd

def next (s : Composer) : Composer := { s with tokens := s.tokens.drop 1 }

def declare (s : Composer) (name : String) : Composer :=
  let slot := s.names.length
  { s with
    names := (name, slot) :: s.names.filter (·.1 ≠ name)
    anchors := s.anchors.push (slot, .absent) }

def define (s : Composer) (position : Nat) (node : Node) : Composer :=
  { s with anchors := s.anchors.modify position fun (slot, _) => (slot, node) }

def resolveTag (s : Composer) (handle : String) (suffix : Tag) : Except SyntaxError Tag :=
  if handle.isEmpty then .ok suffix
  else
    match s.handles.lookup handle with
    | some lead => .ok (lead ++ suffix)
    | none => .error .undefinedHandle

def properties (s : Composer) : Except SyntaxError (Option String × Option Tag × Composer) :=
  let tagged (s : Composer) : Except SyntaxError (Option Tag × Composer) :=
    match s.head with
    | .tag handle suffix => do return (some (← s.resolveTag handle suffix), s.next)
    | _ => .ok (none, s)
  let anchored (s : Composer) : Option String × Composer :=
    match s.head with
    | .anchor name => (some name, s.next)
    | _ => (none, s)
  match s.head with
  | .anchor name => do
    let (tag, s) ← tagged s.next
    return (some name, tag, s)
  | _ => do
    let (tag, s) ← tagged s
    let (anchor, s) := if tag.isSome then anchored s else (none, s)
    return (anchor, tag, s)

mutual

/-- A node. Inside a block, block collections may stand; as an entry of a mapping, a sequence may
stand there without an indentation of its own. -/
def node : Nat → Bool → Bool → Composer → Except SyntaxError (Node × Composer)
  | 0, _, _, _ => .error .unexpectedToken
  | fuel + 1, inBlock, indentless, s =>
    match s.head with
    | .alias name =>
      match s.names.lookup name with
      | some slot => .ok (.alias slot, s.next)
      | none => .error .undefinedAnchor
    | _ => do
      let (anchor, tag, s) ← properties s
      match anchor with
      | none => content fuel inBlock indentless tag tag.isSome s
      | some name =>
        let (found, after) ← content fuel inBlock indentless tag true (s.declare name)
        return (found, after.define s.anchors.size found)

def content :
    Nat → Bool → Bool → Option Tag → Bool → Composer → Except SyntaxError (Node × Composer)
  | 0, _, _, _, _, _ => .error .unexpectedToken
  | fuel + 1, inBlock, indentless, tag, mayBeAbsent, s =>
    match s.head, inBlock, indentless with
    | .blockEntry, _, true => blockEntries fuel false [] s
    | .scalar style text, _, _ => .ok (.scalar tag style text, s.next)
    | .flowSequenceStart, _, _ => flowEntries fuel true [] s.next
    | .flowMappingStart, _, _ => flowPairs fuel true [] s.next
    | .blockSequenceStart, true, _ => blockEntries fuel true [] s.next
    | .blockMappingStart, true, _ => blockPairs fuel [] s.next
    | _, _, _ =>
      if mayBeAbsent then .ok (.scalar tag .plain "", s) else .error .unexpectedToken

/-- The entries of a block sequence, which is closed by a token unless it has no indentation. -/
def blockEntries : Nat → Bool → List Node → Composer → Except SyntaxError (Node × Composer)
  | 0, _, _, _ => .error .unexpectedToken
  | fuel + 1, closed, read, s =>
    match s.head with
    | .blockEntry => do
      let s := s.next
      match s.head, closed with
      | .blockEntry, _ | .blockEnd, _ | .key, false | .value, false =>
        blockEntries fuel closed (.absent :: read) s
      | _, _ =>
        let (item, s) ← node fuel true false s
        blockEntries fuel closed (item :: read) s
    | .blockEnd => .ok (.sequence read.reverse, if closed then s.next else s)
    | _ => if closed then .error .unexpectedToken else .ok (.sequence read.reverse, s)

def blockPart : Nat → Composer → Except SyntaxError (Node × Composer)
  | 0, _ => .error .unexpectedToken
  | fuel + 1, s =>
    match s.head with
    | .key | .value | .blockEnd => .ok (.absent, s)
    | _ => node fuel true true s

def blockPairs : Nat → List (Node × Node) → Composer → Except SyntaxError (Node × Composer)
  | 0, _, _ => .error .unexpectedToken
  | fuel + 1, read, s =>
    match s.head with
    | .key => do
      let (key, s) ← blockPart fuel s.next
      match s.head with
      | .value =>
        let (value, s) ← blockPart fuel s.next
        blockPairs fuel ((key, value) :: read) s
      | _ => blockPairs fuel ((key, .absent) :: read) s
    | .value => do
      let (value, s) ← blockPart fuel s.next
      blockPairs fuel ((.absent, value) :: read) s
    | .blockEnd => .ok (.mapping read.reverse, s.next)
    | _ => .error .unexpectedToken

def flowPart : Nat → Token → Composer → Except SyntaxError (Node × Composer)
  | 0, _, _ => .error .unexpectedToken
  | fuel + 1, closing, s =>
    match s.head with
    | .value | .flowEntry => .ok (.absent, s)
    | token => if token = closing then .ok (.absent, s) else node fuel false false s

def flowValue : Nat → Token → Composer → Except SyntaxError (Node × Composer)
  | 0, _, _ => .error .unexpectedToken
  | fuel + 1, closing, s =>
    match s.head with
    | .value =>
      match s.next.head with
      | .flowEntry => .ok (.absent, s.next)
      | token => if token = closing then .ok (.absent, s.next) else node fuel false false s.next
    | _ => .ok (.absent, s)

def flowEntries : Nat → Bool → List Node → Composer → Except SyntaxError (Node × Composer)
  | 0, _, _, _ => .error .unexpectedToken
  | fuel + 1, first, read, s => do
    if s.head = .flowSequenceEnd then return (.sequence read.reverse, s.next)
    else
      let s ← if first then pure s
        else if s.head = .flowEntry then pure s.next
        else .error .unexpectedToken
      match s.head with
      | .flowSequenceEnd => return (.sequence read.reverse, s.next)
      | .key =>
        let (key, s) ← flowPart fuel .flowSequenceEnd s.next
        let (value, s) ← flowValue fuel .flowSequenceEnd s
        flowEntries fuel false (.mapping [(key, value)] :: read) s
      | _ =>
        let (item, s) ← node fuel false false s
        flowEntries fuel false (item :: read) s

def flowPairs : Nat → Bool → List (Node × Node) → Composer → Except SyntaxError (Node × Composer)
  | 0, _, _, _ => .error .unexpectedToken
  | fuel + 1, first, read, s => do
    if s.head = .flowMappingEnd then return (.mapping read.reverse, s.next)
    else
      let s ← if first then pure s
        else if s.head = .flowEntry then pure s.next
        else .error .unexpectedToken
      match s.head with
      | .flowMappingEnd => return (.mapping read.reverse, s.next)
      | .key =>
        let (key, s) ← flowPart fuel .flowMappingEnd s.next
        let (value, s) ← flowValue fuel .flowMappingEnd s
        flowPairs fuel false ((key, value) :: read) s
      | _ =>
        let (key, s) ← node fuel false false s
        flowPairs fuel false ((key, .absent) :: read) s

end

def standardHandles : List (String × Tag) := [("!", .nonSpecific), ("!!", .standardLead)]

/-- The directives in front of a document: one version at most, and handles that differ. -/
def directives : Nat → Bool → Composer → Except SyntaxError Composer
  | 0, _, _ => .error .unexpectedToken
  | fuel + 1, versioned, s =>
    match s.head with
    | .versionDirective major minor =>
      if versioned || major ≠ 1 || (minor ≠ 1 && minor ≠ 2) then .error .badDirective
      else directives fuel true s.next
    | .tagDirective handle lead =>
      if s.handles.any (·.1 = handle) then .error .badDirective
      else directives fuel versioned { s.next with handles := (handle, lead) :: s.handles }
    | _ => .ok { s with handles := s.handles ++ standardHandles }

def markedRoot (fuel : Nat) (s : Composer) : Except SyntaxError (Node × Composer) :=
  match s.head with
  | .versionDirective .. | .tagDirective .. | .documentStart | .documentEnd | .streamEnd =>
    .ok (.absent, s)
  | _ => node fuel true false s

def document (s : Composer) : Except SyntaxError Document := do
  let fuel := 4 * s.tokens.length + 8
  if s.head = .streamEnd then return { root := none }
  else
    let marked := match s.head with
      | .versionDirective .. | .tagDirective .. | .documentStart => true
      | _ => false
    let s ← directives fuel false s
    let (root, s) ←
      if !marked then node fuel true false s
      else if s.head = .documentStart then markedRoot fuel s.next
      else .error .unexpectedToken
    if s.tokens.dropWhile (· = .documentEnd) = [.streamEnd] then
      return { root := some root, anchors := s.anchors.toList }
    else .error .severalDocuments

end Composer

def Document.ofText (text : String) : Except SyntaxError Document := do
  let found ← tokens text.toList
  Composer.document { tokens := found }

end OffloadBench.Yaml
