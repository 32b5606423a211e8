import Libretto.OrderedMap
import Libretto.Path

/-! The files below a working directory. A path is walked component by component, so
every directory that it passes has to be there, also one that a double dot undoes. Of the
directories above only their being there is known. -/
namespace Libretto

inductive FileFault
  | missing
  | exists
  | isDirectory
  | notDirectory
  | nameTooLong
  | nulInPath
  | notUtf8
  deriving DecidableEq, Repr

inductive Node
  | file (content : ByteArray)
  | directory

/-- Nodes by their components below the working directory. -/
structure FileTree where
  nodes : OrderedMap (List (List Char)) Node

namespace FileTree

def empty : FileTree := ⟨.empty⟩

instance : Inhabited FileTree := ⟨empty⟩

def node? (tree : FileTree) (path : List (List Char)) : Option Node :=
  if path = [] then some .directory else tree.nodes.find? path

/-- Where a walk has come: a node of the tree, or a directory outside of it. -/
inductive Place
  | inside (path : List (List Char))
  | outside
  deriving DecidableEq

def isDirectory (tree : FileTree) : Place → Bool
  | .outside => true
  | .inside path => match tree.node? path with
    | some .directory => true
    | _ => false

/-- The most bytes of a component. A whole path has fewer than `pathLimit`. -/
def nameLimit : Nat := 255
def pathLimit : Nat := 4096

def byteSize (text : List Char) : Nat := text.foldl (fun size c => size + c.utf8Size) 0

/-- What is wrong with a path before any of it is looked up. -/
def checkPath (path : List Char) : Except FileFault Unit :=
  if path.contains '\x00' then .error .nulInPath
  else if path = [] then .error .missing
  else if pathLimit ≤ byteSize path then .error .nameTooLong
  else .ok ()

def enter (tree : FileTree) (place : Place) (part : List Char) : Except FileFault Place :=
  if !tree.isDirectory place then .error .notDirectory
  else if part = [] ∨ part = ['.'] then .ok place
  else if nameLimit < byteSize part then .error .nameTooLong
  else match place with
    | .outside => if part = Path.parent then .ok .outside else .error .missing
    | .inside path =>
      if part = Path.parent then .ok (if path = [] then .outside else .inside path.dropLast)
      else if (tree.node? (path ++ [part])).isSome then .ok (.inside (path ++ [part]))
      else .error .missing

def walk (tree : FileTree) (place : Place) (parts : List (List Char)) : Except FileFault Place :=
  parts.foldlM tree.enter place

def start (path : List Char) : Place :=
  if path.head? = some '/' then .outside else .inside []

/-- Where a path leads, if something is there. -/
def locate (tree : FileTree) (path : List Char) : Except FileFault Place := do
  checkPath path
  tree.walk (start path) (Path.split path)

def holds (tree : FileTree) (path : List Char) : Bool := (tree.locate path).isOk

def holdsDirectory (tree : FileTree) (path : List Char) : Bool :=
  match tree.locate path with
  | .ok place => tree.isDirectory place
  | .error _ => false

def content (tree : FileTree) (path : String) : Except FileFault ByteArray := do
  match ← tree.locate path.toList with
  | .outside => .error .isDirectory
  | .inside place => match tree.node? place with
    | some (.file bytes) => .ok bytes
    | some .directory => .error .isDirectory
    | none => .error .missing

def withoutSlashes (path : List Char) : List Char :=
  (path.reverse.dropWhile (· == '/')).reverse

/-- The directory in which the last component of a path is looked up, which has to be
there, and that component. -/
def lookUp (tree : FileTree) (path : List Char) : Except FileFault (Place × List Char) := do
  checkPath path
  let parts := Path.split (withoutSlashes path)
  let place ← tree.walk (start path) parts.dropLast
  if !tree.isDirectory place then .error .notDirectory
  else .ok (place, parts.getLastD [])

def isDots (name : List Char) : Bool := name = [] || name = ['.'] || name = Path.parent

/-- The node that a path names for writing. What ends in a slash is no file. -/
def target (tree : FileTree) (path : List Char) : Except FileFault (List (List Char)) := do
  let (place, name) ← tree.lookUp path
  if path.getLast? = some '/' || isDots name then .error .isDirectory
  else if nameLimit < byteSize name then .error .nameTooLong
  else match place with
    | .outside => .error .missing
    | .inside path => match tree.node? (path ++ [name]) with
      | some .directory => .error .isDirectory
      | _ => .ok (path ++ [name])

def write (tree : FileTree) (path : String) (content : ByteArray) :
    Except FileFault FileTree := do
  let place ← tree.target path.toList
  .ok ⟨tree.nodes.insert place (.file content)⟩

def writeText (tree : FileTree) (path text : String) : Except FileFault FileTree :=
  tree.write path text.toUTF8

/-- Every way to end a line becomes a line feed. -/
def foldLines : List Char → List Char
  | [] => []
  | c :: rest =>
    if c = '\r' then
      match rest with
      | [] => ['\n']
      | d :: after => if d = '\n' then '\n' :: foldLines after else '\n' :: foldLines (d :: after)
    else c :: foldLines rest

/-- The text of a file as it is stored. -/
def readVerbatim (tree : FileTree) (path : String) : Except FileFault String := do
  match String.fromUTF8? (← tree.content path) with
  | some text => .ok text
  | none => .error .notUtf8

def readText (tree : FileTree) (path : String) : Except FileFault String := do
  .ok (String.ofList (foldLines (← tree.readVerbatim path).toList))

/-- Makes one directory, in one that is there. -/
def makeDirectory (tree : FileTree) (path : List Char) : Except FileFault FileTree := do
  let (place, name) ← tree.lookUp path
  if isDots name then .error .exists
  else if nameLimit < byteSize name then .error .nameTooLong
  else match place with
    | .outside => .error .missing
    | .inside path =>
      if (tree.node? (path ++ [name])).isSome then .error .exists
      else .ok ⟨tree.nodes.insert (path ++ [name]) .directory⟩

end FileTree

end Libretto
