/-! Relative and absolute paths in normal form: no empty or single-dot component, and no
double dot behind a component that it would undo. -/
namespace Libretto.Path

/-- The parts between slashes; a slash at an end leaves an empty part there. -/
def split : List Char → List (List Char)
  | [] => [[]]
  | c :: rest =>
    if c = '/' then [] :: split rest
    else match split rest with
      | part :: parts => (c :: part) :: parts
      | [] => [[c]]

def join : List (List Char) → List Char
  | [] => []
  | [part] => part
  | part :: parts => part ++ '/' :: join parts

/-- One slash at the front makes a path absolute. Exactly two are kept, as they may have
a meaning of their own; three and more are one. -/
def root : List Char → List Char
  | '/' :: '/' :: '/' :: _ => ['/']
  | '/' :: '/' :: _ => ['/', '/']
  | '/' :: _ => ['/']
  | _ => []

def parent : List Char := ['.', '.']

/-- Appends a component to those in normal form, which are held in reverse. -/
def step (absolute : Bool) (kept : List (List Char)) (part : List Char) : List (List Char) :=
  if part = [] ∨ part = ['.'] then kept
  else if part = parent then
    match kept with
    | [] => if absolute then [] else [parent]
    | last :: before => if last = parent then parent :: kept else before
  else part :: kept

def normalChars (path : List Char) : List Char :=
  let front := root path
  let kept := (split path).foldl (step (!front.isEmpty)) []
  match front ++ join kept.reverse with
  | [] => ['.']
  | normal => normal

def normal (path : String) : String := String.ofList (normalChars path.toList)

/-- A name below a directory; a name that is a path from the root stands alone. -/
def below (directory name : String) : String :=
  if name.toList.head? = some '/' then name
  else if directory.toList.getLast? = some '/' then directory ++ name
  else directory ++ "/" ++ name

/-- The path of an input; an empty one is none. -/
def input? : Option String → Option String
  | none => none
  | some path => if path.isEmpty then none else some (normal path)

end Libretto.Path
