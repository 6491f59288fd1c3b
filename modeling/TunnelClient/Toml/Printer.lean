import TunnelClient.Text.Hex

/-!
# Printing TOML

TOML text of strings, each in the plainest of the four forms that can hold it,
and of sections of keys and values.
-/

namespace TunnelClient.Toml

/-! ## Which form fits -/

def isControl (c : Char) : Bool := c < ' ' || c == '\x7f'

def fitsLine (c : Char) : Bool := c == '\t' || !isControl c

def fitsLines (c : Char) : Bool := c == '\n' || fitsLine c

def longestRunOf (q : Char) (run : Nat) : List Char → Nat
  | [] => run
  | c :: rest =>
    if c = q then longestRunOf q (run + 1) rest else max run (longestRunOf q 0 rest)

def isPlainBasic (s : List Char) : Bool :=
  s.all fun c => fitsLine c && c != '\x22' && c != '\\'

def isPlainLiteral (s : List Char) : Bool := s.all fun c => fitsLine c && c != '\x27'

def isPlainMultiBasic (s : List Char) : Bool :=
  (s.all fun c => fitsLines c && c != '\\') && longestRunOf '\x22' 0 s ≤ 2

def isPlainMultiLiteral (s : List Char) : Bool :=
  s.all fitsLines && longestRunOf '\x27' 0 s ≤ 2

/-! ## The forms -/

def escapeText (c : Char) : List Char :=
  if c = '\x08' then ['\\', 'b']
  else if c = '\t' then ['\\', 't']
  else if c = '\n' then ['\\', 'n']
  else if c = '\x0c' then ['\\', 'f']
  else if c = '\r' then ['\\', 'r']
  else if c = '\x22' then ['\\', '\x22']
  else if c = '\\' then ['\\', '\\']
  else if isControl c then ['\\', 'u'] ++ (Text.Hex.fixed 4 c.toNat).map Char.toUpper
  else [c]

def basicText (s : List Char) : List Char := '\x22' :: s.flatMap escapeText ++ ['\x22']

def literalText (s : List Char) : List Char := '\x27' :: s ++ ['\x27']

def openingBreak (s : List Char) : List Char := if s.contains '\n' then ['\n'] else []

def multiEscaped (quotes : Nat) : List Char → List Char
  | [] => []
  | c :: rest =>
    if c = '\x22' then
      if quotes = 2 then '\\' :: '\x22' :: multiEscaped 0 rest
      else '\x22' :: multiEscaped (quotes + 1) rest
    else if c = '\n' then '\n' :: multiEscaped 0 rest
    else escapeText c ++ multiEscaped 0 rest

def multiBasicText (s : List Char) : List Char :=
  List.replicate 3 '\x22' ++ openingBreak s ++ multiEscaped 0 s ++ List.replicate 3 '\x22'

def multiLiteralText (s : List Char) : List Char :=
  List.replicate 3 '\x27' ++ openingBreak s ++ s ++ List.replicate 3 '\x27'

def stringText (s : List Char) : List Char :=
  if isPlainBasic s then basicText s
  else if isPlainLiteral s then literalText s
  else if isPlainMultiBasic s then multiBasicText s
  else if isPlainMultiLiteral s then multiLiteralText s
  else if s.contains '\n' then multiBasicText s
  else basicText s

/-! ## Sections -/

inductive Field where
  | text (s : String)
  | number (n : Nat)
  deriving DecidableEq, Repr

def Field.written : Field → List Char
  | text s => stringText s.toList
  | number n => (toString n).toList

structure Section where
  name : String
  fields : List (String × Field)
  deriving DecidableEq, Repr

def fieldText (f : String × Field) : List Char :=
  f.1.toList ++ [' ', '=', ' '] ++ f.2.written ++ ['\n']

def sectionText (s : Section) : List Char :=
  '[' :: s.name.toList ++ [']', '\n'] ++ s.fields.flatMap fieldText

def sectionsText (sections : List Section) : List Char :=
  ['\n'].intercalate (sections.map sectionText)

end TunnelClient.Toml
