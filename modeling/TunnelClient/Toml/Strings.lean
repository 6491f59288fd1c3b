import TunnelClient.Text.Hex

/-!
# TOML strings

The four kinds of TOML strings.  Each reader starts behind the opening quotes
and gives the text and what follows the closing ones.
-/

namespace TunnelClient.Toml

def isNonAscii (c : Char) : Bool := 0x80 ≤ c.toNat

def isVisible (c : Char) : Bool :=
  c == '\t' || (' ' ≤ c && c ≤ '~') || isNonAscii c

def push (c : Char) : Option (List Char × List Char) → Option (List Char × List Char)
  | some (text, rest) => some (c :: text, rest)
  | none => none

def charOfCode? (n : Nat) : Option Char :=
  if n < 0xD800 ∨ (0xDFFF < n ∧ n < 0x110000) then some (Char.ofNat n) else none

inductive Escape where
  | char (c : Char)
  | code (digits : Nat)
  deriving DecidableEq, Repr

def escape? (c : Char) : Option Escape :=
  if c = 'b' then some (.char '\x08')
  else if c = 't' then some (.char '\t')
  else if c = 'n' then some (.char '\n')
  else if c = 'f' then some (.char '\x0c')
  else if c = 'r' then some (.char '\r')
  else if c = '\x22' then some (.char '\x22')
  else if c = '\\' then some (.char '\\')
  else if c = 'u' then some (.code 4)
  else if c = 'U' then some (.code 8)
  else none

/-! ## One line -/

inductive BasicState where
  | text
  | escape
  | code (left value : Nat)
  deriving DecidableEq, Repr

def basic : BasicState → List Char → Option (List Char × List Char)
  | _, [] => none
  | .text, c :: rest =>
    if c = '\x22' then some ([], rest)
    else if c = '\\' then basic .escape rest
    else if isVisible c then push c (basic .text rest)
    else none
  | .escape, c :: rest =>
    match escape? c with
    | some (.char e) => push e (basic .text rest)
    | some (.code digits) => basic (.code digits 0) rest
    | none => none
  | .code left value, c :: rest =>
    match Text.Hex.value? c with
    | none => none
    | some d =>
      if left ≤ 1 then
        match charOfCode? (value * 16 + d) with
        | some e => push e (basic .text rest)
        | none => none
      else basic (.code (left - 1) (value * 16 + d)) rest

def literal : List Char → Option (List Char × List Char)
  | [] => none
  | c :: rest =>
    if c = '\x27' then some ([], rest)
    else if isVisible c then push c (literal rest)
    else none

/-! ## Several lines -/

/-- The end of a multi-line string: three quotes, and up to two more that belong to the text. -/
def closing? (quote : Char) (cs : List Char) : Option (List Char × List Char) :=
  let run := (cs.takeWhile (· == quote)).length
  if run < 3 then none
  else some (List.replicate (min run 5 - 3) quote, cs.drop (min run 5))

inductive MultiState where
  | text
  | escape
  | code (left value : Nat)
  | gap
  | blank
  deriving DecidableEq, Repr

def breaksLine : Char → List Char → Bool
  | '\n', _ => true
  | '\r', '\n' :: _ => true
  | _, _ => false

def multiBasic : MultiState → List Char → Option (List Char × List Char)
  | _, [] => none
  | .escape, c :: rest =>
    if c = '\n' then multiBasic .blank rest
    else if c = ' ' || c = '\t' || breaksLine c rest then multiBasic .gap rest
    else
      match escape? c with
      | some (.char e) => push e (multiBasic .text rest)
      | some (.code digits) => multiBasic (.code digits 0) rest
      | none => none
  | .code left value, c :: rest =>
    match Text.Hex.value? c with
    | none => none
    | some d =>
      if left ≤ 1 then
        match charOfCode? (value * 16 + d) with
        | some e => push e (multiBasic .text rest)
        | none => none
      else multiBasic (.code (left - 1) (value * 16 + d)) rest
  | .gap, c :: rest =>
    if c = '\n' then multiBasic .blank rest
    else if c = ' ' || c = '\t' || breaksLine c rest then multiBasic .gap rest
    else none
  | state, c :: rest =>
    if state = .blank && (c = ' ' || c = '\t' || breaksLine c rest) then multiBasic .blank rest
    else
      match closing? '\x22' (c :: rest) with
      | some done => some done
      | none =>
        if c = '\\' then multiBasic .escape rest
        else if c = '\n' then push '\n' (multiBasic .text rest)
        else if breaksLine c rest then multiBasic .text rest
        else if isVisible c then push c (multiBasic .text rest)
        else none

def multiLiteral : List Char → Option (List Char × List Char)
  | [] => none
  | c :: rest =>
    match closing? '\x27' (c :: rest) with
    | some done => some done
    | none =>
      if c = '\n' then push '\n' (multiLiteral rest)
      else if breaksLine c rest then multiLiteral rest
      else if isVisible c then push c (multiLiteral rest)
      else none

/-- A line break right behind the opening quotes is not part of the text. -/
def afterOpening : List Char → List Char
  | '\n' :: rest => rest
  | '\r' :: '\n' :: rest => rest
  | cs => cs

/-! ## Any string -/

def readString? : List Char → Option (List Char × List Char)
  | '\x22' :: '\x22' :: '\x22' :: rest => multiBasic .text (afterOpening rest)
  | '\x22' :: rest => basic .text rest
  | '\x27' :: '\x27' :: '\x27' :: rest => multiLiteral (afterOpening rest)
  | '\x27' :: rest => literal rest
  | _ => none

end TunnelClient.Toml
