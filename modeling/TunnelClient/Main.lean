import TunnelClient.CommandLine.LogLine
import TunnelClient.CommandLine.Run
import TunnelClient.Host.Names

/-!
# The program

The program.  It reads the files that its command needs and prints what comes of
it; this build has no socket and no TUN device, so that no peer is in reach.
-/

namespace TunnelClient.Launch

def errorNumber : IO.Error → Nat
  | .alreadyExists _ code _ | .otherError code _ | .resourceBusy code _
  | .resourceVanished code _ | .unsupportedOperation code _ | .hardwareFault code _
  | .unsatisfiedConstraints code _ | .illegalOperation code _ | .protocolError code _
  | .timeExpired code _ | .interrupted _ code _ | .noFileOrDirectory _ code _
  | .invalidArgument _ code _ | .permissionDenied _ code _ | .resourceExhausted _ code _
  | .inappropriateType _ code _ | .noSuchThing _ code _ => code.toNat
  | .unexpectedEof | .userError _ => 5

def isReached (path : String) : IO Bool := do
  try
    let _ ← IO.FS.realPath path
    return true
  catch _ => return false

def readFile (path : String) : IO (Except ReadFailure String) := do
  if path.contains '\x00' then return .error ⟨false, .nulInName⟩
  try
    let bytes ← IO.FS.readBinFile path
    match Text.Utf8.decode? bytes.toList with
    | some text => return .ok text
    | none => return .error ⟨true, .notUtf8⟩
  catch e => return .error ⟨← isReached path, .number (errorNumber e)⟩

def commandPath? (args : List String) : Option String :=
  match CommandLine.read args with
  | .run (.connect path _ _) | .run (.validate path) => some path
  | _ => none

abbrev Contents := List (String × Except ReadFailure String)

def Contents.readText (c : Contents) : Config.ReadText := fun path =>
  (c.lookup path).getD (.error ⟨false, .number 2⟩)

def keyPath? (c : Contents) (path : String) : Option String :=
  match Config.read c.readText path with
  | .ok config => config.crypto.keyFile
  | .error _ => none

def readContents (args : List String) : IO Contents := do
  match commandPath? args with
  | none => return []
  | some path =>
    let contents : Contents := [(path, ← readFile path)]
    match keyPath? contents path with
    | none => return contents
    | some keyPath => return contents ++ [(keyPath, ← readFile keyPath)]

def bytesValue (bytes : List UInt8) : Nat := bytes.foldl (fun n b => n * 256 + b.toNat) 0

def randomKey (bytes : List UInt8) : PresharedKey :=
  ⟨(List.range 32).map fun i => bytes.getD i 0, by simp⟩

def run (args : List String) : IO UInt32 := do
  let contents ← readContents args
  let secret ← IO.getRandomBytes 32
  let first ← IO.getRandomBytes 12
  let nonces (n : Nat) : Nonce := .ofNat (bytesValue first.toList + n)
  let host : Host := ⟨contents.readText, HostName.lookup, .isolated []⟩
  match CommandLine.invoke host nonces (randomKey secret.toList) args with
  | .done code output error =>
    IO.print output
    match error with
    | some e => IO.eprintln ("ERROR " ++ CommandLine.logTarget ++ ": " ++ LogLine.text e.report)
    | none => pure ()
    return code.toUInt32
  | .session _ _ =>
    IO.eprintln ("ERROR " ++ CommandLine.logTarget ++ ": no TUN device")
    return 1

end TunnelClient.Launch

def main (args : List String) : IO UInt32 := TunnelClient.Launch.run args
