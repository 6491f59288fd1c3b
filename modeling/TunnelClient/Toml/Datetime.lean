import TunnelClient.Text.Numeral
import TunnelClient.Toml.Value

/-!
# TOML dates and times

TOML dates and times: a date that the calendar has, a time, or both with an
optional offset.
-/

namespace TunnelClient.Toml

def field? (width low high : Nat) (cs : List Char) : Option (Nat × List Char) :=
  let digits := cs.take width
  let n := Text.Numeral.value 10 digits
  if digits.length = width ∧ digits.all (Text.Numeral.isDigit 10) ∧ low ≤ n ∧ n ≤ high then
    some (n, cs.drop width)
  else none

def char? (c : Char) : List Char → Option (List Char)
  | d :: rest => if d = c then some rest else none
  | [] => none

def isLeapYear (year : Nat) : Bool :=
  year % 4 == 0 && (year % 100 != 0 || year % 400 == 0)

def daysInMonth (year month : Nat) : Nat :=
  if month = 2 then if isLeapYear year then 29 else 28
  else if month ∈ [4, 6, 9, 11] then 30
  else 31

def date? (cs : List Char) : Option (List Char) := do
  let (year, cs) ← field? 4 0 9999 cs
  let cs ← char? '-' cs
  let (month, cs) ← field? 2 1 12 cs
  let cs ← char? '-' cs
  let (_, cs) ← field? 2 1 (daysInMonth year month) cs
  some cs

def subsecond (cs : List Char) : List Char :=
  match cs with
  | '.' :: rest =>
    if (rest.takeWhile (Text.Numeral.isDigit 10)).isEmpty then cs
    else rest.dropWhile (Text.Numeral.isDigit 10)
  | _ => cs

def time? (cs : List Char) : Option (List Char) := do
  let (_, cs) ← field? 2 0 23 cs
  let cs ← char? ':' cs
  let (_, cs) ← field? 2 0 59 cs
  let cs ← char? ':' cs
  let (_, cs) ← field? 2 0 60 cs
  some (subsecond cs)

def hoursAndMinutes? (cs : List Char) : Option (List Char) := do
  let (_, cs) ← field? 2 0 23 cs
  let cs ← char? ':' cs
  let (_, cs) ← field? 2 0 59 cs
  some cs

def offset? : List Char → Option (List Char)
  | c :: cs =>
    if c = 'Z' || c = 'z' then some cs
    else if c = '+' || c = '-' then hoursAndMinutes? cs
    else some (c :: cs)
  | [] => some []

def timeOfDate? : List Char → Option (List Char)
  | c :: cs => if c = 'T' || c = 't' || c = ' ' then time? cs else none
  | [] => none

def datetimeEnd? (cs : List Char) : Option (List Char) :=
  match date? cs with
  | none => time? cs
  | some afterDate =>
    match timeOfDate? afterDate with
    | none => some afterDate
    | some afterTime => offset? afterTime

def datetime? (cs : List Char) : Option (Value × List Char) :=
  (datetimeEnd? cs).map fun rest =>
    (.datetime (String.ofList (cs.take (cs.length - rest.length))), rest)

end TunnelClient.Toml
