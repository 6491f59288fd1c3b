import TunnelClient.Text.Hex

/-!
# Numerals

Unsigned numerals at the start of a text, as network addresses write them.
-/

namespace TunnelClient.Text.Numeral

/-- What a numeral may look like: its base, its greatest length if it has one, whether it may
start with idle zeros, and the bound its value stays below. -/
structure Form where
  base : Nat
  maxDigits : Option Nat
  zeroPrefix : Bool
  bound : Nat
  deriving DecidableEq, Repr

def digit? (base : Nat) (c : Char) : Option Nat :=
  match Hex.value? c with
  | some d => if d < base then some d else none
  | none => none

def isDigit (base : Nat) (c : Char) : Bool := (digit? base c).isSome

def value (base : Nat) (digits : List Char) : Nat :=
  digits.foldl (fun acc c => acc * base + (digit? base c).getD 0) 0

/-- Reads the longest run of digits and refuses it as a whole if it breaks the form. -/
def read? (form : Form) (text : List Char) : Option (Nat × List Char) :=
  let digits := text.takeWhile (isDigit form.base)
  let rest := text.dropWhile (isDigit form.base)
  let tooLong := match form.maxDigits with
    | some most => most < digits.length
    | none => false
  let idleZero := !form.zeroPrefix && digits.head? == some '0' && 1 < digits.length
  if digits.isEmpty || tooLong || idleZero || form.bound ≤ value form.base digits then none
  else some (value form.base digits, rest)

end TunnelClient.Text.Numeral
