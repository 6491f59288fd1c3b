import TunnelClient.Failure.System
import TunnelClient.Text.Utf8

/-!
# File trees

A tree of files, and the way a path takes through it.
-/

namespace TunnelClient

inductive FileNode where
  | file (bytes : List UInt8)
  | directory
  deriving DecidableEq, Repr

/-- Files and directories by the names that lead to them from the root.  Directories on the way
need no entry of their own. -/
structure FileTree where
  entries : List (List String × FileNode)
  workingDirectory : List String := []
  deriving DecidableEq, Repr

namespace FileTree

def node? (t : FileTree) (place : List String) : Option FileNode :=
  match t.entries.lookup place with
  | some node => some node
  | none =>
    if place.isEmpty || t.entries.any fun entry => place.isPrefixOf entry.1 then some .directory
    else none

def placeOf (path : String) : List String :=
  (path.splitOn "/").filter fun name => name != "" && name != "."

def usual : List (List String × FileNode) :=
  [(["dev", "null"], .file []), (["etc", "passwd"], .file "root:x:0:0".toUTF8.toList),
    (["bin"], .directory), (["home"], .directory), (["lib"], .directory),
    (["proc"], .directory), (["root"], .directory), (["sbin"], .directory), (["sys"], .directory),
    (["tmp"], .directory), (["usr", "bin"], .directory), (["var"], .directory)]

def below (workingDirectory : List String) (nodes : List (String × FileNode)) : FileTree :=
  ⟨nodes.map (fun (path, node) => (workingDirectory ++ placeOf path, node))
    ++ (workingDirectory, .directory) :: usual, workingDirectory⟩

def noSuchFile : SystemError := .number 2

def notADirectory : SystemError := .number 20

def isADirectory : SystemError := .number 21

def nameTooLong : SystemError := .number 36

def enter (t : FileTree) (place : List String) (name : String) : Except SystemError (List String) :=
  match t.node? place with
  | some .directory =>
    if name = "" ∨ name = "." then .ok place
    else if name = ".." then .ok place.dropLast
    else if 255 < name.utf8ByteSize then .error nameTooLong
    else if (t.node? (place ++ [name])).isSome then .ok (place ++ [name])
    else .error noSuchFile
  | _ => .error notADirectory

/-- Where a path leads; it starts at the root if it begins with a slash. -/
def resolve (t : FileTree) (path : String) : Except SystemError (List String) :=
  let start := if path.startsWith "/" then [] else t.workingDirectory
  if path.isEmpty then .error noSuchFile
  else if path.contains '\x00' then .error .nulInName
  else if 4096 ≤ path.utf8ByteSize then .error nameTooLong
  else (path.splitOn "/").foldlM t.enter start

def readText (t : FileTree) (path : String) : Except ReadFailure String :=
  match t.resolve path with
  | .error e => .error ⟨false, e⟩
  | .ok place =>
    match t.node? place with
    | some (.file bytes) =>
      match Text.Utf8.decode? bytes with
      | some text => .ok text
      | none => .error ⟨true, .notUtf8⟩
    | _ => .error ⟨true, isADirectory⟩

end FileTree

end TunnelClient
