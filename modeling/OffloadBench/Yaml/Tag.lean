/-! # Tags

A tag names the kind of a node. It is a text of bytes, which need not make up characters, and ends
in front of its first zero byte.
-/
namespace OffloadBench.Yaml

structure Tag where
  bytes : List UInt8
  deriving DecidableEq, Repr

namespace Tag

/-- The tag that bytes spell, up to the first zero. -/
def ofBytes (bytes : List UInt8) : Tag := ⟨bytes.takeWhile (· ≠ 0)⟩

def ofChars (text : List Char) : Tag := ofBytes (text.map fun c => UInt8.ofNat c.toNat)

def isEmpty (t : Tag) : Bool := t.bytes.isEmpty

instance : Append Tag := ⟨fun lead suffix => ⟨lead.bytes ++ suffix.bytes⟩⟩

def nonSpecific : Tag := ofChars ['!']

def standardLead : Tag := ofChars "tag:yaml.org,2002:".toList

def standard (kind : String) : Tag := standardLead ++ ofChars kind.toList

end Tag

end OffloadBench.Yaml
