import TunnelClient.Text.Numeral
import TunnelClient.Toml.Strings
import TunnelClient.Toml.Value

/-!
# TOML numbers

TOML integers and floats.  Integers have 64 bits; a float too large for a
double is refused, unless it is negative.
-/

namespace TunnelClient.Toml

/-- A run of digits in which single underscores may stand between two digits; the underscores are
dropped.  `need` says that a digit has to follow. -/
def digitRun? (isDigit : Char → Bool) (need : Bool) : List Char → Option (List Char × List Char)
  | [] => if need then none else some ([], [])
  | c :: rest =>
    if isDigit c then push c (digitRun? isDigit false rest)
    else if need then none
    else if c = '_' then digitRun? isDigit true rest
    else some ([], c :: rest)

def decimalRun? : List Char → Option (List Char × List Char) :=
  digitRun? (Text.Numeral.isDigit 10) true

def whole? : List Char → Option (List Char × List Char)
  | '0' :: rest => some (['0'], rest)
  | cs => decimalRun? cs

def sign : List Char → Bool × List Char
  | '-' :: rest => (true, rest)
  | '+' :: rest => (false, rest)
  | cs => (false, cs)

/-! ## Integers -/

def minInteger : Int := -9223372036854775808

def maxInteger : Int := 9223372036854775807

def integer? (i : Int) : Option Value :=
  if minInteger ≤ i ∧ i ≤ maxInteger then some (.integer i) else none

def base? (c : Char) : Option Nat :=
  if c = 'x' then some 16 else if c = 'o' then some 8 else if c = 'b' then some 2 else none

def baseInteger? (base : Nat) (cs : List Char) : Option (Value × List Char) := do
  let (digits, rest) ← digitRun? (Text.Numeral.isDigit base) true cs
  let v ← integer? (Text.Numeral.value base digits)
  some (v, rest)

/-! ## Floats -/

def infinityBound : Nat := Nat.pow 2 1024 - Nat.pow 2 970

/-- Whether the number `digits · 10^exponent` is rounded to infinity.  Its order of magnitude
settles all but the close cases. -/
def overflows (digits : List Char) (exponent : Int) : Bool :=
  let digits := digits.dropWhile (· == '0')
  let order := exponent + digits.length
  let n := Text.Numeral.value 10 digits
  if digits.isEmpty || order < 300 then false
  else if 320 < order then true
  else if 0 ≤ exponent then infinityBound ≤ n * Nat.pow 10 exponent.toNat
  else infinityBound * Nat.pow 10 (-exponent).toNat ≤ n

def fraction? : List Char → Option (Option (List Char) × List Char)
  | '.' :: rest => (decimalRun? rest).map fun (digits, rest) => (some digits, rest)
  | cs => some (none, cs)

def exponentValue (negative : Bool) (digits : List Char) : Int :=
  let n : Int := Text.Numeral.value 10 digits
  if negative then -n else n

def exponent? : List Char → Option (Option Int × List Char)
  | c :: rest =>
    if c = 'e' || c = 'E' then
      let (negative, rest) := sign rest
      (decimalRun? rest).map fun (digits, rest) => (some (exponentValue negative digits), rest)
    else some (none, c :: rest)
  | [] => some (none, [])

def signText (negative : Bool) : String := if negative then "-" else ""

def float? (negative : Bool) (whole fraction : List Char) (exponent : Int) : Option Value :=
  if !negative && overflows (whole ++ fraction) (exponent - fraction.length) then none
  else
    some (.float (signText negative ++ String.ofList whole ++ "." ++ String.ofList fraction
      ++ "e" ++ toString exponent))

/-! ## Any number -/

def decimal? (negative : Bool) (cs : List Char) : Option (Value × List Char) := do
  let (whole, rest) ← whole? cs
  let (fraction, rest) ← fraction? rest
  let (exponent, rest) ← exponent? rest
  let v ←
    if fraction.isNone && exponent.isNone then integer? (exponentValue negative whole)
    else float? negative whole (fraction.getD []) (exponent.getD 0)
  some (v, rest)

def signed? (cs : List Char) : Option (Value × List Char) :=
  match sign cs with
  | (negative, 'i' :: 'n' :: 'f' :: rest) => some (.float (signText negative ++ "inf"), rest)
  | (_, 'n' :: 'a' :: 'n' :: rest) => some (.float "nan", rest)
  | (negative, rest) => decimal? negative rest

def number? : List Char → Option (Value × List Char)
  | '0' :: c :: rest =>
    match base? c with
    | some base => baseInteger? base rest
    | none => decimal? false ('0' :: c :: rest)
  | cs => signed? cs

end TunnelClient.Toml
