import TunnelClient.Address.Endpoint

/-!
# Command-line arguments

The words of a command line: a command, and options with values.
-/

namespace TunnelClient.CommandLine

def defaultPath : String := "/etc/burrow/client.toml"

inductive Command where
  | connect (path : String) (server : Option String) (port : Option UInt16)
  | validate (path : String)
  | generateKey
  deriving DecidableEq, Repr

inductive Page where
  | overview
  | connect
  | validate
  | generateKey
  | help
  deriving DecidableEq, Repr

inductive Invocation where
  | run (c : Command)
  | help (page : Page)
  | version
  | rejected
  deriving DecidableEq, Repr

/-! ## Options -/

inductive Key where
  | config
  | server
  | port
  deriving DecidableEq, Repr

def Key.long : Key → String
  | config => "config"
  | server => "server"
  | port => "port"

def Key.short : Key → Char
  | config => 'c'
  | server => 's'
  | port => 'p'

def integer? (cs : List Char) : Option Int :=
  let negative := cs.head? = some '-'
  let digits := if negative ∨ cs.head? = some '+' then cs.tail else cs
  let n : Int := Text.Numeral.value 10 digits
  if digits.isEmpty || !digits.all Char.isDigit then none else some (if negative then -n else n)

def port? (value : String) : Option UInt16 :=
  match integer? value.toList with
  | some n => if 0 ≤ n ∧ n < 65536 then some (.ofNat n.toNat) else none
  | none => none

/-- What options accept: a path has at least one character, and a server may be any text. -/
def Key.accepts (key : Key) (value : String) : Bool :=
  match key with
  | .config => !value.isEmpty
  | .server => true
  | .port => (port? value).isSome

abbrev Options := List (Key × String)

def Options.add? (key : Key) (value : String) (o : Options) : Option Options :=
  if key.accepts value && (o.lookup key).isNone then some (o ++ [(key, value)]) else none

/-! ## Words -/

inductive Word where
  | separator
  | long (name : String) (value : Option String)
  | short (letter : Char) (rest : List Char)
  | plain (text : String)
  deriving DecidableEq, Repr

def splitAtEquals (cs : List Char) : String × Option String :=
  let value := match cs.dropWhile (· != '=') with
    | [] => none
    | _ :: rest => some (String.ofList rest)
  (String.ofList (cs.takeWhile (· != '=')), value)

def Word.read (word : String) : Word :=
  match word.toList with
  | ['-', '-'] => .separator
  | '-' :: '-' :: rest => .long (splitAtEquals rest).1 (splitAtEquals rest).2
  | '-' :: letter :: rest => .short letter rest
  | _ => .plain word

def Word.isPlain : Word → Bool
  | plain _ => true
  | _ => false

def attached? : List Char → Option String
  | [] => none
  | '=' :: rest => some (String.ofList rest)
  | rest => some (String.ofList rest)

inductive Reading where
  | options (o : Options)
  | help
  | rejected
  deriving DecidableEq, Repr

inductive Demand where
  | option (key : Key) (value : Option String)
  | help
  | nothing
  deriving DecidableEq, Repr

def Word.demand (allowed : List Key) : Word → Demand
  | .long "help" none => .help
  | .long name value =>
    match allowed.find? fun key => key.long == name with
    | some key => .option key value
    | none => .nothing
  | .short 'h' _ => .help
  | .short letter rest =>
    match allowed.find? fun key => key.short == letter with
    | some key => .option key (attached? rest)
    | none => .nothing
  | .separator | .plain _ => .nothing

/-- Reads options up to the first help request or fault; `pending` is one that still needs its
value.  After a separator nothing may follow. -/
def readOptions (allowed : List Key) (pending : Option Key) (o : Options) : List String → Reading
  | [] => if pending.isSome then .rejected else .options o
  | word :: rest =>
    match pending with
    | some key =>
      match if (Word.read word).isPlain then o.add? key word else none with
      | some o => readOptions allowed none o rest
      | none => .rejected
    | none =>
      if Word.read word = .separator then if rest.isEmpty then .options o else .rejected
      else
        match (Word.read word).demand allowed with
        | .help => .help
        | .option key none => readOptions allowed (some key) o rest
        | .option key (some value) =>
          match o.add? key value with
          | some o => readOptions allowed none o rest
          | none => .rejected
        | .nothing => .rejected

/-! ## Commands -/

def pathOf (o : Options) : String := (o.lookup .config).getD defaultPath

def connectOf (o : Options) : Command :=
  .connect (pathOf o) (o.lookup .server) ((o.lookup .port).bind port?)

def invocation (page : Page) (command : Options → Command) : Reading → Invocation
  | .options o => .run (command o)
  | .help => .help page
  | .rejected => .rejected

def page? : List String → Option Page
  | [] => some .overview
  | ["connect"] => some .connect
  | ["validate"] => some .validate
  | ["genkey"] => some .generateKey
  | ["help"] => some .help
  | _ => none

def readWord : Word → Invocation
  | .long "help" none => .help .overview
  | .long "version" none => .version
  | .short 'h' _ => .help .overview
  | .short 'V' _ => .version
  | _ => .rejected

def read : List String → Invocation
  | [] => .rejected
  | "connect" :: rest =>
    invocation .connect connectOf (readOptions [.config, .server, .port] none [] rest)
  | "validate" :: rest =>
    invocation .validate (fun o => .validate (pathOf o)) (readOptions [.config] none [] rest)
  | "genkey" :: rest =>
    invocation .generateKey (fun _ => .generateKey) (readOptions [] none [] rest)
  | "help" :: rest =>
    match page? rest with
    | some page => .help page
    | none => .rejected
  | word :: _ => readWord (Word.read word)

end TunnelClient.CommandLine
