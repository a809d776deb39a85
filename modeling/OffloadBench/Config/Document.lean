import OffloadBench.Config.Layers
import OffloadBench.Yaml.Compose
import OffloadBench.Yaml.Core

/-! # Settings files

A settings file is a mapping with the two groups of settings. What it leaves out keeps its default;
what it names must be known, stand there once and have the right form.
-/
namespace OffloadBench.Config
open Device Yaml

inductive ShapeError
  | notAMapping
  | notAKey
  | unknownField (name : String)
  | duplicateField (name : String)
  | badField (name : String)
  deriving DecidableEq, Repr

def ShapeError.message : ShapeError → String
  | .notAMapping => "a mapping is expected"
  | .notAKey => "a field name is expected"
  | .unknownField name => s!"field {Text.quoted name} is not known"
  | .duplicateField name => s!"field {Text.quoted name} stands there twice"
  | .badField name => s!"value of field {Text.quoted name} is not well formed"

namespace Document

/-- The text of a scalar that may hold a value of a kind: a plain one, or a literal block that is
tagged with the kind. -/
def valueText? (doc : Document) (kind : String) (node : Node) : Option String :=
  match doc.resolve node with
  | some (.scalar tag style text) =>
    if style = .plain ∨ (style = .literal ∧ tag = some (.standard kind)) then some text else none
  | _ => none

def natural? (doc : Document) (bound : Nat) (node : Node) : Option UInt64 :=
  ((valueText? doc "int" node).bind (Yaml.natural? bound)).map UInt64.ofNat

def truth? (doc : Document) (node : Node) : Option Bool :=
  (valueText? doc "bool" node).bind Yaml.truth?

/-- A value that may be null. Under a tag of its own, a plain scalar is null only if the tag says
so, and then it must be. -/
def optional? (doc : Document) (node : Node) : Option (Option UInt64) :=
  let some? := (natural? doc UInt64.size node).map some
  match doc.resolve node with
  | some (.scalar none .plain text) =>
    if text.isEmpty || isNull text then some none else some?
  | some (.scalar (some tag) .plain text) =>
    if tag = .standard "null" then (if isNull text then some none else none) else some?
  | _ => some?

def keyText? (doc : Document) (node : Node) : Option String :=
  match doc.resolve node with
  | some (.scalar _ _ text) => some text
  | _ => none

def pairs? (doc : Document) (node : Node) : Option (List (Node × Node)) :=
  match doc.resolve node with
  | some (.mapping entries) => some entries
  | some (.scalar _ .plain "") => some []
  | _ => none

def record {α : Type} (doc : Document)
    (field : String → Option (Node → α → Except ShapeError α)) (start : α) (node : Node) :
    Except ShapeError α :=
  let step : List String × α → Node × Node → Except ShapeError (List String × α) :=
    fun (seen, read) (key, value) =>
      match keyText? doc key with
      | none => .error .notAKey
      | some name =>
        match field name with
        | none => .error (.unknownField name)
        | some set =>
          if seen.contains name then .error (.duplicateField name)
          else (set value read).map fun read => (name :: seen, read)
  match pairs? doc node with
  | none => .error .notAMapping
  | some entries => (entries.foldlM step ([], start)).map (·.2)

def setter {α β : Type} (name : String) (read : Node → Option β) (set : β → α → α) :
    Node → α → Except ShapeError α := fun node record =>
  match read node with
  | some value => .ok (set value record)
  | none => .error (.badField name)

def packetField (doc : Document) (name : String) :
    Option (Node → PacketSettings → Except ShapeError PacketSettings) :=
  let byte := natural? doc 256
  match name with
  | "element_count" => some <| setter name (natural? doc UInt64.size) fun n p =>
      { p with elementCount := n }
  | "max_level" => some <| setter name byte fun n p => { p with maxLevel := n.toUInt8 }
  | "collective_id" => some <| setter name (natural? doc 65536) fun n p =>
      { p with collectiveId := n.toUInt16 }
  | "collective_type" => some <| setter name byte fun n p => { p with collectiveType := n.toUInt8 }
  | "op_code" => some <| setter name byte fun n p => { p with opCode := n.toUInt8 }
  | _ => none

def runField (doc : Document) (name : String) :
    Option (Node → RunSettings → Except ShapeError RunSettings) :=
  match name with
  | "test_sets" => some <| setter name (natural? doc UInt32.size) fun n r =>
      { r with testSets := n.toUInt32 }
  | "seed" => some <| setter name (optional? doc) fun seed r => { r with seed := seed }
  | "response_level_offset" => some <| setter name (natural? doc 256) fun n r =>
      { r with responseLevelOffset := n.toUInt8 }
  | "receive_timeout_ms" => some <| setter name (optional? doc) fun timeout r =>
      { r with receiveTimeout := timeout }
  | "dump_packets" => some <| setter name (truth? doc) fun enabled r =>
      { r with dumpPackets := enabled }
  | _ => none

def groupField (doc : Document) (name : String) :
    Option (Node → Settings → Except ShapeError Settings) :=
  match name with
  | "packet" => some fun node s =>
      (record doc (packetField doc) {} node).map fun packet => { s with packet := packet }
  | "run" => some fun node s =>
      (record doc (runField doc) {} node).map fun run => { s with run := run }
  | _ => none

def settings (doc : Document) : Except ShapeError Settings :=
  match doc.root with
  | none => .ok {}
  | some node => record doc (groupField doc) {} node

end Document

def Settings.ofText (path text : String) : Except ConfigError Settings :=
  if (Text.trim text.toList).isEmpty then .ok {}
  else
    match Yaml.Document.ofText text with
    | .error e => .error (.malformed s!"{path}: {e.message}")
    | .ok doc =>
      match Document.settings doc with
      | .error e => .error (.malformed s!"{path}: {e.message}")
      | .ok settings => .ok settings

structure FileLayer where
  path : String
  content : Except SystemFailure ByteArray

def badEncoding : SystemFailure := ⟨.other, "stream did not contain valid UTF-8"⟩

def FileLayer.settings : Option FileLayer → Except ConfigError Settings
  | none => .ok {}
  | some file =>
    match file.content with
    | .error failure => .error (.unreadable failure)
    | .ok bytes =>
      match String.fromUTF8? bytes with
      | none => .error (.unreadable badEncoding)
      | some text => Settings.ofText file.path text

end OffloadBench.Config
