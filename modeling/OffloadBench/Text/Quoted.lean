import OffloadBench.Text.Numeral
import OffloadBench.Text.Printable

/-! # Quoted text

A text between double quotes, on one line and without characters that would not show: these are
written by name, or by their code point between braces.
-/
namespace OffloadBench.Text

def quotedChar (c : Char) : String :=
  if c = '\x00' then "\\0"
  else if c = '\t' then "\\t"
  else if c = '\r' then "\\r"
  else if c = '\n' then "\\n"
  else if c = '\\' then "\\\\"
  else if c = '"' then "\\\""
  else if isPrintable c then c.toString
  else "\\u\x7b" ++ hex c.toNat ++ "\x7d"

def quoted (text : String) : String :=
  "\"" ++ String.join (text.toList.map quotedChar) ++ "\""

end OffloadBench.Text
