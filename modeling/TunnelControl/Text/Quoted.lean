import TunnelControl.Text.Hexadecimal
import TunnelControl.Text.Invisible

namespace TunnelControl.Text

def escaped (c : Char) : String :=
  match c with
  | '"' => "\\\""
  | '\\' => "\\\\"
  | '\n' => "\\n"
  | '\r' => "\\r"
  | '\t' => "\\t"
  | '\x00' => "\\0"
  | c =>
      if isInvisible c then "\\u\x7b" ++ Hexadecimal.digits c.toNat ++ "\x7d"
      else c.toString

def quoted (text : String) : String :=
  "\"" ++ String.join (text.toList.map escaped) ++ "\""

end TunnelControl.Text
