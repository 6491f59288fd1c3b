import TunnelClient.Toml.Datetime
import TunnelClient.Toml.Number
import TunnelClient.Toml.Strings
import TunnelClient.Toml.Value

/-!
# Reading TOML

TOML documents: statements, one a line, that build up one table.  A document
with any fault has no reading.
-/

namespace TunnelClient.Toml

/-! ## Space, comments and line ends -/

def isSpace (c : Char) : Bool := c == ' ' || c == '\t'

def skipSpace (cs : List Char) : List Char := cs.dropWhile isSpace

def skipComment : List Char → List Char
  | '#' :: rest => rest.dropWhile isVisible
  | cs => cs

def newline? : List Char → Option (List Char)
  | '\n' :: rest => some rest
  | '\r' :: '\n' :: rest => some rest
  | _ => none

def lineEnd? (cs : List Char) : Option (List Char) :=
  match skipComment (skipSpace cs) with
  | [] => some []
  | rest => newline? rest

def skipBlank (inComment : Bool) : List Char → List Char
  | [] => []
  | c :: rest =>
    if breaksLine c rest then skipBlank (inComment && c != '\n') rest
    else if inComment then if isVisible c then skipBlank true rest else c :: rest
    else if isSpace c then skipBlank false rest
    else if c = '#' then skipBlank true rest
    else c :: rest

/-! ## Keys -/

def isBare (c : Char) : Bool := c.isAlphanum || c == '_' || c == '-'

def keyPart? : List Char → Option (String × List Char)
  | '\x22' :: rest => (basic .text rest).map fun (key, rest) => (String.ofList key, rest)
  | '\x27' :: rest => (literal rest).map fun (key, rest) => (String.ofList key, rest)
  | cs =>
    let key := cs.takeWhile isBare
    if key.isEmpty then none else some (String.ofList key, cs.dropWhile isBare)

/-- A key of at most `most` parts, and what follows it and the space behind it. -/
def keyPath? : Nat → List Char → Option (List String × List Char)
  | 0, _ => none
  | most + 1, cs => do
    let (part, cs) ← keyPart? (skipSpace cs)
    match skipSpace cs with
    | '.' :: cs =>
      let (path, cs) ← keyPath? most cs
      some (part :: path, cs)
    | cs => some ([part], cs)

def maxKeyParts : Nat := 79

def key? (cs : List Char) : Option (List String × List Char) := keyPath? maxKeyParts cs

/-! ## Values -/

def maxDepth : Nat := 79

def string? (cs : List Char) : Option (Value × List Char) :=
  (readString? cs).map fun (s, rest) => (.string (String.ofList s), rest)

def scalar? : List Char → Option (Value × List Char)
  | '\x22' :: rest => string? ('\x22' :: rest)
  | '\x27' :: rest => string? ('\x27' :: rest)
  | 't' :: 'r' :: 'u' :: 'e' :: rest => some (.boolean true, rest)
  | 'f' :: 'a' :: 'l' :: 's' :: 'e' :: rest => some (.boolean false, rest)
  | cs => (datetime? cs).or (number? cs)

mutual

def nested? : Nat → Nat → List Char → Option (Value × List Char)
  | 0, _, _ => none
  | fuel + 1, depth, cs =>
    match cs with
    | '[' :: rest =>
      if maxDepth ≤ depth then none
      else (items? fuel (depth + 1) rest).map fun (items, rest) => (.array items, rest)
    | '\x7b' :: rest =>
      if maxDepth ≤ depth then none
      else
        match skipSpace rest with
        | '\x7d' :: rest => some (.table [], rest)
        | rest => (pairs? fuel (depth + 1) .root rest).map fun (node, rest) => (node.toValue, rest)
    | cs => scalar? cs

def items? : Nat → Nat → List Char → Option (List Value × List Char)
  | 0, _, _ => none
  | fuel + 1, depth, cs =>
    match skipBlank false cs with
    | ']' :: rest => some ([], rest)
    | rest => do
      let (v, rest) ← nested? fuel depth rest
      match skipBlank false rest with
      | ',' :: rest =>
        let (vs, rest) ← items? fuel depth rest
        some (v :: vs, rest)
      | ']' :: rest => some ([v], rest)
      | _ => none

def pairs? : Nat → Nat → Node → List Char → Option (Node × List Char)
  | 0, _, _, _ => none
  | fuel + 1, depth, node, cs => do
    let (path, rest) ← key? cs
    let rest ← char? '=' rest
    let (v, rest) ← nested? fuel depth (skipSpace rest)
    let node ← node.insert path v
    match skipSpace rest with
    | ',' :: rest => pairs? fuel depth node rest
    | '\x7d' :: rest => some (node, rest)
    | _ => none

end

/-- Two calls at most read each character. -/
def value? (cs : List Char) : Option (Value × List Char) := nested? (2 * cs.length + 2) 0 cs

/-! ## Statements -/

inductive Statement where
  | blank
  | table (path : List String)
  | item (path : List String)
  | assign (path : List String) (v : Value)

def statement? : List Char → Option (Statement × List Char)
  | '\n' :: rest => some (.blank, '\n' :: rest)
  | '\r' :: rest => some (.blank, '\r' :: rest)
  | '#' :: rest => some (.blank, '#' :: rest)
  | '[' :: '[' :: rest => do
    let (path, rest) ← key? rest
    let rest ← char? ']' rest
    let rest ← char? ']' rest
    some (.item path, rest)
  | '[' :: rest => do
    let (path, rest) ← key? rest
    let rest ← char? ']' rest
    some (.table path, rest)
  | cs => do
    let (path, rest) ← key? cs
    let rest ← char? '=' rest
    let (v, rest) ← value? (skipSpace rest)
    some (.assign path v, rest)

/-! ## Documents -/

/-- What the statements so far define, and the header that the next ones belong to. -/
structure Layout where
  root : Node := .root
  header : List String := []

def Layout.apply (s : Statement) (l : Layout) : Option Layout :=
  match s with
  | .blank => some l
  | .table path => (l.root.openHeader Node.defineTable path).map (⟨·, path⟩)
  | .item path => (l.root.openHeader Node.appendTable path).map (⟨·, path⟩)
  | .assign path v =>
    (l.root.descend false (Node.insert path v) l.header).map fun root => { l with root := root }

/-- Each line takes at least one character. -/
def lines? : Nat → Layout → List Char → Option Layout
  | 0, _, _ => none
  | fuel + 1, l, cs =>
    match skipSpace cs with
    | [] => some l
    | cs => do
      let (s, rest) ← statement? cs
      let l ← l.apply s
      let rest ← lineEnd? rest
      lines? fuel l rest

def skipMark : List Char → List Char
  | '\uFEFF' :: rest => rest
  | cs => cs

def parse? (text : String) : Option Entries := do
  let cs := skipMark text.toList
  let l ← lines? (cs.length + 1) {} cs
  match l.root.toValue with
  | .table entries => some entries
  | _ => none

end TunnelClient.Toml
