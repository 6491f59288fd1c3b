import TunnelClient.Text.Hex

/-!
# Log lines

Text in a log line: the control characters that can steer a terminal are written
as their codes, so that a message cannot forge or hide what is logged.
-/

namespace TunnelClient.LogLine

open Text

def steering : List Char := ['\x1b', '\x07', '\x08', '\x0c', '\x7f']

def escape (c : Char) : List Char :=
  if steering.contains c then ['\\', 'x'] ++ Hex.fixed 2 c.toNat
  else if 0x80 ≤ c.toNat ∧ c.toNat ≤ 0x9F then
    ['\\', 'u', '\x7b'] ++ Hex.shortest c.toNat ++ ['\x7d']
  else [c]

def text (message : String) : String := String.ofList (message.toList.flatMap escape)

end TunnelClient.LogLine
