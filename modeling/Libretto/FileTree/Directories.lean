import Libretto.Edit

/-! Directories made on the way to a path, and files put where there was no directory. What
was made before a fault stays. -/
namespace Libretto.FileTree

/-- The paths of the directories that a path passes, the outermost first. `passed` is the
path up to here in reverse. -/
def passing (passed : List Char) : List Char → List (List Char)
  | [] => []
  | c :: rest =>
    let further := passing (c :: passed) rest
    if c = '/' ∧ passed ≠ [] ∧ passed.head? ≠ some '/' then passed.reverse :: further
    else further

/-- A change of the files, with the path that a fault is about. -/
def attempt (path : String) (change : FileTree → Except FileFault FileTree) :
    Edit FileTree Unit := do
  let files ← Edit.get
  match change files with
  | .ok files => Edit.set files
  | .error fault => Edit.fail (.file fault path)

/-- A directory and those that its path passes, the innermost first. -/
def levels (path : List Char) : List (List Char) :=
  path :: (passing [] (withoutSlashes path)).reverse

def endsInDot (path : List Char) : Bool :=
  (Path.split (withoutSlashes path)).getLast? = some ['.']

/-- Makes one directory. `mayExist` tells whether it may be there before. -/
def makeOne (mayExist : Bool) (path : List Char) : Edit FileTree Unit := do
  let files ← Edit.get
  if !(mayExist && files.holdsDirectory path) then
    attempt (String.ofList path) (·.makeDirectory path)

/-- Makes a directory after those around it, as far out as none is there. Around it
something that is there already is no fault. A single dot at the end asks for nothing more
than what was made around it. -/
def makeLevels (mayExist : Bool) : List (List Char) → Edit FileTree Unit
  | [] => pure ()
  | path :: around => do
    let files ← Edit.get
    if around.head?.all files.holds then makeOne mayExist path
    else
      Edit.pardon (·.kind = .existingFile) (makeLevels mayExist around)
      if !endsInDot path then makeOne mayExist path

/-- Makes a directory and those that its path passes. -/
def makeDirectories (mayExist : Bool) (path : String) : Edit FileTree Unit :=
  makeLevels mayExist (levels path.toList)

/-- Puts a file in its place with the directories it needs, or makes a directory if the
path ends with a slash. -/
def put (path : String) (content : ByteArray) : Edit FileTree Unit := do
  let chars := path.toList
  if chars.getLast? = some '/' then makeDirectories true path
  else
    let above := withoutSlashes (chars.reverse.dropWhile (· ≠ '/')).reverse
    if above ≠ [] then makeDirectories true (String.ofList above)
    attempt path (·.write path content)

/-- The tree with these files and directories, put in their places in turn. -/
def ofFiles (files : List (String × ByteArray)) : Except Fault FileTree :=
  let edit : Edit FileTree Unit := files.forM fun (path, content) => put path content
  let outcome := edit empty
  outcome.result.map fun _ => outcome.state

end Libretto.FileTree
