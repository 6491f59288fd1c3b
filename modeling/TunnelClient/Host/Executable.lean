import TunnelClient.Host.FileTree

/-!
# Starting a program

Starting a program by its name.  A name with a slash is a path; any other name is
looked for in the directories of the search path.  No file of a tree is
executable, so that the answer is the reason why nothing starts.
-/

namespace TunnelClient.FileTree

def permissionDenied : SystemError := .number 13

def executionError (t : FileTree) (path : String) : SystemError :=
  match t.resolve path with
  | .error e => e
  | .ok _ => permissionDenied

/-- The search goes on behind a directory that does not have the program. -/
def isPassedOver (e : SystemError) : Bool := e ∈ [noSuchFile, notADirectory, permissionDenied]

/-- The first error that ends the search; without one a program that was found but may not be
executed outweighs those that are missing. -/
def searchError (errors : List SystemError) : SystemError :=
  match errors.find? (!isPassedOver ·) with
  | some e => e
  | none => if permissionDenied ∈ errors then permissionDenied else errors.getLastD noSuchFile

def searchPath : List String := ["/usr/bin", "/bin"]

def nulInArgument : SystemError := .described .invalidInput "nul byte found in provided data"

def startError (t : FileTree) (name : String) : SystemError :=
  if name.contains '\x00' then nulInArgument
  else if name.isEmpty then noSuchFile
  else if name.contains '/' then t.executionError name
  else searchError (searchPath.map fun directory => t.executionError (directory ++ "/" ++ name))

end TunnelClient.FileTree
