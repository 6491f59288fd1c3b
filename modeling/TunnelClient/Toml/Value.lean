/-!
# TOML values

The values of a TOML document.  Numbers with a fraction and dates keep their text.
-/

namespace TunnelClient.Toml

inductive Value where
  | string (s : String)
  | integer (i : Int)
  | float (text : String)
  | boolean (b : Bool)
  | datetime (text : String)
  | array (items : List Value)
  | table (entries : List (String × Value))
  deriving Repr

abbrev Entries := List (String × Value)

/-! ## Tables under construction -/

/-- A table is implicit until a header or an inline table defines it, and dotted if dotted keys
made it. -/
inductive Node where
  | value (v : Value)
  | table (isImplicit dotted : Bool) (entries : List (String × Node))
  | tables (items : List Node)

namespace Node

def root : Node := .table false false []

mutual

def toValue : Node → Value
  | .value v => v
  | .table _ _ entries => .table (entriesToValues entries)
  | .tables items => .array (itemsToValues items)

def entriesToValues : List (String × Node) → List (String × Value)
  | [] => []
  | (key, node) :: rest => (key, node.toValue) :: entriesToValues rest

def itemsToValues : List Node → List Value
  | [] => []
  | node :: rest => node.toValue :: itemsToValues rest

end

def set (key : String) (node : Node) (entries : List (String × Node)) : List (String × Node) :=
  if entries.any (·.1 == key) then
    entries.map fun entry => if entry.1 == key then (key, node) else entry
  else entries ++ [(key, node)]

/-- Changes the table at the end of a path, which missing tables are made for.  A path enters the
last table of an array of tables, and no other value.  A dotted path enters no table that was
defined on its own. -/
def descend (dotted : Bool) (change : Node → Option Node) : List String → Node → Option Node
  | [], node => change node
  | key :: path, node =>
    match node with
    | .table isImplicit isDotted entries =>
      match entries.lookup key with
      | none => do
        let child ← descend dotted change path (.table true dotted [])
        some (.table isImplicit isDotted (set key child entries))
      | some (.table childImplicit childDotted childEntries) =>
        if dotted && !childImplicit then none
        else do
          let child ← descend dotted change path (.table childImplicit childDotted childEntries)
          some (.table isImplicit isDotted (set key child entries))
      | some (.tables items) =>
        match items.getLast? with
        | none => none
        | some last => do
          let child ← descend dotted change path last
          some (.table isImplicit isDotted (set key (.tables (items.dropLast ++ [child])) entries))
      | some (.value _) => none
    | _ => none

/-- Puts a value under a key that is free.  A dotted table takes values by dotted keys only, and
other tables by plain keys only. -/
def insertValue (plain : Bool) (key : String) (v : Value) : Node → Option Node
  | .table isImplicit dotted entries =>
    if dotted == plain || (entries.lookup key).isSome then none
    else some (.table isImplicit dotted (set key (.value v) entries))
  | _ => none

def insert (path : List String) (v : Value) (node : Node) : Option Node :=
  match path.getLast? with
  | none => none
  | some key => descend true (insertValue (path.length == 1) key v) path.dropLast node

def defineTable (key : String) : Node → Option Node
  | .table isImplicit dotted entries =>
    match entries.lookup key with
    | none => some (.table isImplicit dotted (set key root entries))
    | some (.table true false childEntries) =>
      some (.table isImplicit dotted (set key (.table false false childEntries) entries))
    | some _ => none
  | _ => none

def appendTable (key : String) : Node → Option Node
  | .table isImplicit dotted entries =>
    match entries.lookup key with
    | none => some (.table isImplicit dotted (set key (.tables [root]) entries))
    | some (.tables items) =>
      some (.table isImplicit dotted (set key (.tables (items ++ [root])) entries))
    | some _ => none
  | _ => none

def openHeader (define : String → Node → Option Node) (path : List String) (node : Node) :
    Option Node :=
  match path.getLast? with
  | none => none
  | some key => descend false (define key) path.dropLast node

end Node

end TunnelClient.Toml
