/-! Descriptions of inputs: where the files are and which language they hold. -/
namespace Libretto

/-- What an input is for. -/
inductive Medium
  | text
  | subtitles
  | groups
  deriving DecidableEq, Repr

def Medium.unreadable (path : String) : Medium → String
  | text => "Unable to read text file " ++ path
  | subtitles => "Unable to read subtitle file " ++ path
  | groups => "Unable to read scene groups from " ++ path

/-- The two parts of a script. -/
inductive Part
  | cutscene
  | hint
  deriving DecidableEq, Repr

def Part.label : Part → String
  | cutscene => "Cutscene"
  | hint => "Hint"

inductive Format
  | goal
  | json
  deriving DecidableEq, Repr

def Format.name : Format → String
  | goal => "GOAL"
  | json => "JSON"

def defaultVersion : String := "jak1-v2"

/-- One file of text lines. A negative language stands for none. -/
structure TextSource where
  format : Format := .json
  path : String := ""
  language : Int := -1
  version : String := defaultVersion
  group : Option String := none
  deriving DecidableEq, Repr

def TextSource.describe (source : TextSource) : String :=
  let group := match source.group with
    | some name => if name.isEmpty then "default" else name
    | none => "default"
  source.format.name ++ " text " ++ source.path ++ " (language " ++ toString source.language ++
    ", group " ++ group ++ ")"

/-- The dialogue and the timing of a language. Base files fill in for what these lack. -/
structure ScriptSource where
  format : Format := .json
  language : Int := -1
  version : String := defaultVersion
  dialoguePath : String := ""
  dialogueBase : Option String := none
  timingPath : String := ""
  timingBase : Option String := none
  deriving DecidableEq, Repr

def ScriptSource.describe (source : ScriptSource) : String :=
  source.format.name ++ " subtitles " ++ source.dialoguePath ++ " (language " ++
    toString source.language ++ ")"

end Libretto
