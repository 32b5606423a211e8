import Libretto.Source

/-! What there is to tell while data changes. The words for it are found here and nowhere
else. -/
namespace Libretto

inductive Level
  | debug
  | info
  | warning
  | error
  deriving DecidableEq, Repr

def Level.rank : Level → Nat
  | debug => 10
  | info => 20
  | warning => 30
  | error => 40

def Level.label : Level → String
  | debug => "DEBUG"
  | info => "INFO"
  | warning => "WARNING"
  | error => "ERROR"

inductive Notice
  | tableAdded (group : String) (language : Int)
  | linesLoaded (lines : Nat) (group : String) (language : Int)
  | readingText (path : String)
  | textLoaded (language : Int) (path : String)
  | sceneAdded (scene : String) (language : Int)
  | sceneReplaced (scene : String) (language : Int)
  | scriptAdded (language : Int)
  | readingScript (path : String)
  | scenesLoaded (scenes : Nat) (language : Int)
  | scriptSaved (language : Int) (path : String)
  | loadingGroups (path : String)
  | groupsLoaded (groups : Nat)
  | groupsSaved (path : String)
  | noGroups
  /-- A group that the order of a document leaves out. -/
  | unorderedGroup (group : String)
  | unreadable (medium : Medium) (path problem : String)
  /-- Texts without cues: of a whole scene, and left over in a scene. -/
  | untimedScene (part : Part) (scene : String)
  | untimedTexts (part : Part) (scene : String) (texts : Nat)
  | unknownSpeaker (key : String)
  | unwrittenScene (scene : String)
  /-- The caller's own words. -/
  | words (level : Level) (text : String)
  deriving DecidableEq, Repr

namespace Notice

def level : Notice → Level
  | tableAdded _ _ => .debug
  | linesLoaded _ _ _ => .debug
  | readingText _ => .debug
  | textLoaded _ _ => .info
  | sceneAdded _ _ => .debug
  | sceneReplaced _ _ => .debug
  | scriptAdded _ => .debug
  | readingScript _ => .debug
  | scenesLoaded _ _ => .info
  | scriptSaved _ _ => .info
  | loadingGroups _ => .info
  | groupsLoaded _ => .debug
  | groupsSaved _ => .info
  | noGroups => .debug
  | unorderedGroup _ => .warning
  | unreadable _ _ _ => .error
  | untimedScene _ _ => .warning
  | untimedTexts _ _ _ => .warning
  | unknownSpeaker _ => .warning
  | unwrittenScene _ => .warning
  | words level _ => level

def message : Notice → String
  | tableAdded group language =>
    "Added text bank for language " ++ toString language ++ " to group '" ++ group ++ "'"
  | linesLoaded lines group language =>
    "Loaded " ++ toString lines ++ " lines into text group '" ++ group ++ "' language " ++
      toString language
  | readingText path => "Reading text file " ++ path
  | textLoaded language path =>
    "Loaded text for language " ++ toString language ++ " from " ++ path
  | sceneAdded scene language =>
    "Added scene '" ++ scene ++ "' to subtitle bank " ++ toString language
  | sceneReplaced scene language =>
    "Replaced scene '" ++ scene ++ "' in subtitle bank " ++ toString language
  | scriptAdded language => "Added subtitle bank for language " ++ toString language
  | readingScript path => "Reading subtitle file " ++ path
  | scenesLoaded scenes language =>
    "Loaded " ++ toString scenes ++ " subtitle scenes for language " ++ toString language
  | scriptSaved language path =>
    "Saved subtitles for language " ++ toString language ++ " to " ++ path
  | loadingGroups path => "Loading scene groups from " ++ path
  | groupsLoaded groups => "Loaded " ++ toString groups ++ " scene groups"
  | groupsSaved path => "Saved scene groups to " ++ path
  | noGroups => "No scene groups, sorting groups not updated"
  | unorderedGroup group =>
    "Scene group '" ++ group ++ "' is not in the group order, adding it at the end"
  | unreadable medium path problem => medium.unreadable path ++ ": " ++ problem
  | untimedScene part scene =>
    part.label ++ " '" ++ scene ++ "' has no metadata and will be skipped"
  | untimedTexts part scene texts =>
    part.label ++ " '" ++ scene ++ "' has " ++ toString texts ++ " lines of text without metadata"
  | unknownSpeaker key => "Speaker '" ++ key ++ "' has no display name, using the key"
  | unwrittenScene scene => "Scene '" ++ scene ++ "' has an invalid kind and will not be written"
  | words _ text => text

/-- A notice as a line of a log. -/
def line (notice : Notice) : String := notice.level.label ++ ": " ++ notice.message

/-- Whether a log that starts at a level takes the notice. -/
def reaches (notice : Notice) (least : Level) : Bool := least.rank ≤ notice.level.rank

end Notice

end Libretto
