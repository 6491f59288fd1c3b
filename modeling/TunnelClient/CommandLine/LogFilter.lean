import TunnelClient.Text.Blank
import TunnelClient.Text.Numeral

/-!
# Log filters

Log filters: directives with commas between them, each a level for all that is
logged or for the targets that begin with a name.  The most specific directive
that applies decides, and of two alike the later one.
-/

namespace TunnelClient.LogFilter

inductive Level where
  | off
  | error
  | warn
  | info
  | debug
  | trace
  deriving DecidableEq, Repr

def levelNames : List (String × Level) :=
  [("off", .off), ("error", .error), ("warn", .warn), ("info", .info), ("debug", .debug),
    ("trace", .trace), ("", .error)]

def levelNumbers : List Level := [.off, .error, .warn, .info, .debug, .trace]

def digits (cs : List Char) : List Char :=
  match cs with
  | '+' :: rest => rest
  | _ => cs

def level? (cs : List Char) : Option Level :=
  let number := digits cs
  if !number.isEmpty && number.all Char.isDigit then
    levelNumbers[Text.Numeral.value 10 number]?
  else levelNames.lookup (String.ofList (cs.map Char.toLower))

/-- A directive that names a span or compares a field applies to spans only. -/
structure Directive where
  target : Option (List Char) := none
  spanOnly : Bool := false
  fields : List (List Char) := []
  level : Level
  deriving DecidableEq, Repr

/-! ## Reading -/

def startsTarget (c : Char) : Bool :=
  c.isAlphanum || c == '-' || c == ':' || c == '_' || 0x80 ≤ c.toNat

def levelOrAll? (cs : List Char) : Option Level := if cs.isEmpty then some .trace else level? cs

def afterSpan? : List Char → Option Level
  | [] => some .trace
  | '=' :: rest => levelOrAll? rest
  | _ => none

def span? (target : Option (List Char)) (cs : List Char) : Option Directive :=
  let name := cs.takeWhile fun c => c != ']' && c != '\x7b'
  match cs.drop name.length with
  | ']' :: rest => (afterSpan? rest).map fun level => ⟨target, true, [], level⟩
  | '\x7b' :: rest =>
    let field := rest.takeWhile (· != '\x7d')
    match rest.drop field.length with
    | '\x7d' :: ']' :: rest =>
      if field.isEmpty then none
      else
        (afterSpan? rest).map fun level =>
          ⟨target, !name.isEmpty || field.contains '=', [field], level⟩
    | _ => none
  | _ => none

def targetOrLevel (cs : List Char) : Directive :=
  match level? cs with
  | some level => { level := level }
  | none => { target := some cs, level := .trace }

/-- Reads a directive.  Blanks are part of a target, and before one they spoil what follows it. -/
def directive? (cs : List Char) : Option Directive :=
  match cs with
  | [] => none
  | '[' :: rest => span? none rest
  | c :: _ =>
    if Text.isBlank c then
      if cs.contains '=' || cs.contains '[' || cs.all Text.isBlank then none
      else some (targetOrLevel cs)
    else if !startsTarget c then none
    else
      let target := cs.takeWhile fun c => c != '=' && c != '['
      match cs.drop target.length with
      | [] => some (targetOrLevel cs)
      | '=' :: rest =>
        (levelOrAll? rest).map fun level => { target := some target, level := level }
      | _ :: rest => span? (some target) rest

def splitAtCommas (cs : List Char) : List (List Char) :=
  cs.foldr (fun c parts =>
    if c = ',' then [] :: parts
    else
      match parts with
      | part :: rest => (c :: part) :: rest
      | [] => [[c]]) [[]]

def directives (filter : String) : List Directive :=
  (splitAtCommas filter.toList).filterMap directive?

/-! ## Deciding -/

def Directive.applies (target : List Char) (d : Directive) : Bool :=
  !d.spanOnly && d.fields.all (· == "message".toList) &&
    match d.target with
    | some start => start.isPrefixOf target
    | none => true

def Directive.rank (d : Directive) : Nat × Nat :=
  match d.target with
  | some target => (target.length + 1, d.fields.length)
  | none => (0, d.fields.length)

def atLeast (a b : Nat × Nat) : Bool := b.1 < a.1 || (b.1 == a.1 && b.2 ≤ a.2)

def mostSpecific (ds : List Directive) : Option Directive :=
  ds.foldl (fun best d =>
    match best with
    | some b => if atLeast d.rank b.rank then some d else best
    | none => some d) none

def showsErrors (filter target : String) : Bool :=
  let ds := directives filter
  if ds.isEmpty then true
  else
    match mostSpecific (ds.filter fun d => d.applies target.toList) with
    | some d => d.level != .off
    | none => false

end TunnelClient.LogFilter
