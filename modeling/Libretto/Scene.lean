import Libretto.Label
import Libretto.Sorting
import Libretto.Text.Quoted

/-! Scenes: timed lines in the order of their frames. Lines of one frame stay in the order
they were added. -/
namespace Libretto

/-- A line without text clears the screen from its frame on. -/
structure Line where
  frame : Int
  text : String := ""
  speaker : String := ""
  offscreen : Bool := false
  deriving DecidableEq, Hashable, Repr, Inhabited

namespace Line

def clear (frame : Int) : Line := { frame }

def isClear (line : Line) : Bool := line.text.isEmpty

/-- Only the frames count for the order of lines. -/
def before (a b : Line) : Bool := a.frame < b.frame

def describe (line : Line) : String :=
  if line.isClear then toString line.frame ++ ": <clear>"
  else
    let speaker := if line.speaker.isEmpty then "" else line.speaker ++ ": "
    toString line.frame ++ ": " ++ speaker ++ line.text

/-- The line as it is constructed. -/
def construction (line : Line) : String :=
  "SubtitleLine(" ++ toString line.frame ++ ", " ++ Text.quoted line.text ++ ", " ++
    Text.quoted line.speaker ++ ", " ++ (if line.offscreen then "True" else "False") ++ ")"

end Line

inductive SceneKind
  | invalid
  | movie
  | hint
  | namedHint
  deriving DecidableEq, Repr

namespace SceneKind

def number : SceneKind → Int
  | invalid => -1
  | movie => 0
  | hint => 1
  | namedHint => 2

def name : SceneKind → String
  | invalid => "Invalid"
  | movie => "Movie"
  | hint => "Hint"
  | namedHint => "HintNamed"

def isHint : SceneKind → Bool
  | hint | namedHint => true
  | _ => false

end SceneKind

/-- The group and its index come from the grouping and are no part of the content. -/
structure Scene where
  name : String := ""
  kind : SceneKind := .movie
  id : Int := 0
  lines : List Line := []
  group : String := ""
  groupIndex : Int := -1
  deriving DecidableEq, Repr, Inhabited

namespace Scene

def add (scene : Scene) (line : Line) : Scene :=
  { scene with lines := place Line.before line scene.lines }

def addAll (scene : Scene) (lines : List Line) : Scene := lines.foldl add scene

def clearLines (scene : Scene) : Scene := { scene with lines := [] }

/-- Takes over the content of another scene and keeps its own group. -/
def copyContent (scene other : Scene) : Scene :=
  { scene with name := other.name, kind := other.kind, id := other.id, lines := other.lines }

def describe (scene : Scene) : String :=
  "SubtitleScene " ++ scene.name ++ " (" ++ Label.spaced scene.kind.name ++ ", " ++
    toString scene.lines.length ++ " lines)"

end Scene

end Libretto
