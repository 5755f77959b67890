import GatewayLink.Text.Hex
import GatewayLink.Text.Printable

/-! Quoted text for messages: double quotes around it, the two marks `"` and `\` escaped, the usual
short forms for line breaks, tab and NUL, and `\u` with the code point in braces for whatever has no
visible form of its own. -/

namespace GatewayLink.Text

def quotedChar (c : Char) : String :=
  if c = '"' then "\\\""
  else if c = '\\' then "\\\\"
  else if c = '\n' then "\\n"
  else if c = '\r' then "\\r"
  else if c = '\t' then "\\t"
  else if c.toNat = 0 then "\\0"
  else if isPrintable c then c.toString
  else "\\u\x7b" ++ hexNumber c.toNat ++ "\x7d"

def quoted (s : String) : String :=
  "\"" ++ String.join (s.toList.map quotedChar) ++ "\""

end GatewayLink.Text
