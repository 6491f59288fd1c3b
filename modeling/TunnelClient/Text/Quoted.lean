import TunnelClient.Text.Hex
import TunnelClient.Text.Hidden

/-!
# Quoted text

Text in double quotes, as state dumps show it: quotes and backslashes are
escaped, and what a reader could not see is written as its code point.
-/

namespace TunnelClient.Text.Quoted

def escape (c : Char) : List Char :=
  match c with
  | '\x00' => ['\\', '0']
  | '\t' => ['\\', 't']
  | '\r' => ['\\', 'r']
  | '\n' => ['\\', 'n']
  | '"' => ['\\', '"']
  | '\\' => ['\\', '\\']
  | c =>
    if isHidden c then ['\\', 'u', '\x7b'] ++ Hex.shortest c.toNat ++ ['\x7d'] else [c]

def quote (text : String) : String :=
  String.ofList ('"' :: text.toList.flatMap escape ++ ['"'])

end TunnelClient.Text.Quoted
