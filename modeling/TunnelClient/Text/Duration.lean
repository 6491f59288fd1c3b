/-!
# Durations

Lengths of time in text, in the largest unit that they reach, with a fraction
if they are no whole number of it.
-/

namespace TunnelClient.Text.Duration

def fraction (milliseconds : Nat) : List Char :=
  let digits := [milliseconds / 100 % 10, milliseconds / 10 % 10, milliseconds % 10]
  let significant := (digits.reverse.dropWhile (· == 0)).reverse
  if significant.isEmpty then [] else '.' :: significant.map fun d => Char.ofNat (48 + d)

def ofMilliseconds (n : Nat) : String :=
  if n = 0 then "0ns"
  else if n < 1000 then s!"{n}ms"
  else toString (n / 1000) ++ String.ofList (fraction (n % 1000)) ++ "s"

end TunnelClient.Text.Duration
