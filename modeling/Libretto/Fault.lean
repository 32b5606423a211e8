import Libretto.FileTree
import Libretto.HexId
import Libretto.Json.Error
import Libretto.Numeral
import Libretto.Source
import Libretto.Value

/-! What can go wrong, as causes. The words for a cause are found here and nowhere else. -/
namespace Libretto

/-- The kinds that a caller tells apart. -/
inductive Kind
  | general
  | parse
  | duplicateKey
  | notFound
  | settings
  | value
  | type
  | overflow
  | nesting
  | system
  | missingFile
  | existingFile
  | isDirectory
  | notDirectory
  | encoding
  | document
  deriving DecidableEq, Repr

def Kind.label : Kind → String
  | general => "GameTextError"
  | parse => "GameTextParseError"
  | duplicateKey => "DuplicateKeyError"
  | notFound => "NotFoundError"
  | settings => "SettingsError"
  | value => "ValueError"
  | type => "TypeError"
  | overflow => "OverflowError"
  | nesting => "RecursionError"
  | system => "OSError"
  | missingFile => "FileNotFoundError"
  | existingFile => "FileExistsError"
  | isDirectory => "IsADirectoryError"
  | notDirectory => "NotADirectoryError"
  | encoding => "UnicodeDecodeError"
  | document => "JSONDecodeError"

/-- The library's own kinds; the others come from the numbers, files and documents below. -/
def Kind.isOwn : Kind → Bool
  | general | parse | duplicateKey | notFound => true
  | _ => false

/-- A document whose parts have the wrong form. -/
inductive ShapeFault
  | notObject (context found : String)
  | notList (context found : String)
  | missingField (context field : String)
  | wrongField (context field expected found : String)
  | notTextMap (context : String)
  | notTextList (context name : String)
  | notTextLine (key found : String)
  | groupOrder (key : String)
  | groupScenes (group : String)
  | layers
  | partNotObject (name : String)
  deriving DecidableEq, Repr

def ShapeFault.message : ShapeFault → String
  | notObject context found => context ++ " must be an object, not " ++ found
  | notList context found => context ++ " must be a list, not " ++ found
  | missingField context field => context ++ " is missing required field '" ++ field ++ "'"
  | wrongField context field expected found =>
    context ++ " field '" ++ field ++ "' should be " ++ expected ++ ", not " ++ found
  | notTextMap context => context ++ " must map names to strings"
  | notTextList context name => context ++ " '" ++ name ++ "' must be a list of strings"
  | notTextLine key found => "Text for line " ++ key ++ " should be a string, not " ++ found
  | groupOrder key => "Scene group order '" ++ key ++ "' must be a list of names"
  | groupScenes group => "Scene group '" ++ group ++ "' must be a list of scene names"
  | layers => "Subtitle files must contain JSON objects"
  | partNotObject name => "Subtitle section '" ++ name ++ "' must be an object"

inductive Fault
  | invalidHexId (value : Value)
  | negativeHexId (id : Int)
  | negativeWidth (width : Int)
  | hugeWidth
  | infiniteInteger
  | undefinedInteger
  | booleanSetting (key : String)
  | unreadableSetting (key : String) (value : Value)
  | unknownFormat (name : String)
  | invalidLanguage (cause : Fault)
  | noTextPath (source : TextSource)
  | noScriptPaths (source : ScriptSource)
  | unsupportedText (source : TextSource)
  | unsupportedScript (source : ScriptSource)
  | noTextLanguage (source : TextSource)
  | noScriptLanguage (source : ScriptSource)
  | file (fault : FileFault) (path : String)
  | document (mistake : Json.Mistake)
  | hugeInteger (digits : Nat)
  | deepDocument (container : Json.Container)
  /-- A value with more levels than are put into words. -/
  | deepValue
  /-- An integer of more digits than are written. -/
  | unwritableInteger
  | unreadable (medium : Medium) (path : String) (cause : Fault)
  | malformedText (cause : Fault)
  | shape (fault : ShapeFault)
  | missingTexts (part : Part) (scene : String) (texts : Nat)
  | reservedGroup (group : String)
  | duplicateTable (group : String) (language : Int)
  | duplicateScript (language : Int)
  | duplicateScene (scene : String) (language : Int)
  | sceneInTwoGroups (scene first second : String)
  | lineNotFound (line language : Int)
  | groupNotFound (group : String)
  | sceneNotFound (scene : String) (language : Int)
  /-- A fault of the caller's own, in its words. -/
  | remark (kind : Kind) (text : Option String) (key : Value)
  | remarkOn (kind : Kind) (text : Option String) (cause : Fault)
  /-- A fault of the surroundings, known by its arguments. -/
  | foreign (kind : Kind) (arguments : List Value)
  /-- A number in the place of a count that is none. -/
  | uncountable (value : Value)
  deriving Inhabited

namespace Fault

def fileKind : FileFault → Kind
  | .missing => .missingFile
  | .exists => .existingFile
  | .isDirectory => .isDirectory
  | .notDirectory => .notDirectory
  | .nameTooLong => .system
  | .nulInPath => .value
  | .notUtf8 => .encoding

def kind : Fault → Kind
  | invalidHexId _ => .parse
  | negativeHexId _ => .value
  | negativeWidth _ => .value
  | hugeWidth => .value
  | infiniteInteger => .overflow
  | undefinedInteger => .value
  | booleanSetting _ => .settings
  | unreadableSetting _ _ => .settings
  | unknownFormat _ => .general
  | invalidLanguage _ => .general
  | noTextPath _ => .general
  | noScriptPaths _ => .general
  | unsupportedText _ => .general
  | unsupportedScript _ => .general
  | noTextLanguage _ => .general
  | noScriptLanguage _ => .general
  | file fault _ => fileKind fault
  | document _ => .document
  | hugeInteger _ => .value
  | deepDocument _ => .nesting
  | deepValue => .nesting
  | unwritableInteger => .value
  | unreadable _ _ _ => .parse
  | malformedText _ => .parse
  | shape _ => .parse
  | missingTexts _ _ _ => .parse
  | reservedGroup _ => .general
  | duplicateTable _ _ => .duplicateKey
  | duplicateScript _ => .duplicateKey
  | duplicateScene _ _ => .duplicateKey
  | sceneInTwoGroups _ _ _ => .duplicateKey
  | lineNotFound _ _ => .notFound
  | groupNotFound _ => .notFound
  | sceneNotFound _ _ => .notFound
  | remark kind _ _ => kind
  | remarkOn kind _ _ => kind
  | foreign kind _ => kind
  | uncountable (.float _) => .type
  | uncountable _ => .value

/-- The fault that this one was raised for. -/
def cause? : Fault → Option Fault
  | invalidLanguage cause => some cause
  | unreadable _ _ cause => some cause
  | malformedText cause => some cause
  | remarkOn _ _ cause => some cause
  | _ => none

/-- The key that was missing or there already. -/
def key : Fault → Value
  | duplicateTable group language => .list [.str group, .int language]
  | duplicateScript language => .int language
  | duplicateScene scene _ => .str scene
  | sceneInTwoGroups scene _ _ => .str scene
  | lineNotFound line _ => .int line
  | groupNotFound group => .str group
  | sceneNotFound scene _ => .str scene
  | remark _ _ key => key
  | _ => .null

def orElse (text other : String) : String := if text.isEmpty then other else text

/-- A row of arguments. -/
def row (arguments : List Value) : String :=
  "(" ++ String.intercalate ", " (Value.quotedItems arguments) ++ ")"

/-- A number and a text, and the files that it is about. -/
def systemText (number text : Value) (files : List Value) : String :=
  let names := match files with
    | [] => ""
    | files => ": " ++ String.intercalate " -> " (Value.quotedItems files)
  "[Errno " ++ number.text ++ "] " ++ text.text ++ names

def isNumber : Value → Bool
  | .bool _ | .int _ | .float _ => true
  | _ => false

/-- The numbers of a wait that would block. -/
def isBlocking : Value → Bool
  | .int number => number = 11 || number = 114 || number = 115
  | _ => false

/-- A wait that would block may say in the place of the first file how much was written. -/
def count? : List Value → Option Value
  | number :: _ :: first :: rest =>
    if isBlocking number && isNumber first && rest.length ≤ 2 then some first else none
  | _ => none

/-- A count is an integer of 64 bits. -/
def isCount : Value → Bool
  | .bool _ => true
  | .int count => -Int.pow 2 63 ≤ count && count < Int.pow 2 63
  | _ => false

/-- The files after the number and the text. There is no second one without a first, and
between the two there is a place for a number that is not shown. -/
def files : List Value → List Value
  | [] => []
  | .null :: _ => []
  | [first, _, .null] => [first]
  | [first, _, second] => [first, second]
  | first :: _ => [first]

/-- No argument is no text, one is its own text, and more are shown as a row. A fault of
the system puts its number in front and its files, which are no count, behind. -/
def argumentsText (kind : Kind) (arguments : List Value) : String :=
  match kind, arguments with
  | _, [] => ""
  | _, [value] => value.text
  | .system, number :: text :: rest =>
    if 3 < rest.length then row arguments
    else systemText number text (if (count? arguments).isSome then [] else files rest)
  | _, values => row values

/-- The fault that these arguments describe, or the one that lies in their count. -/
def ofArguments (kind : Kind) (arguments : List Value) : Except Fault Fault :=
  match kind, count? arguments with
  | .system, some count =>
    if isCount count then .ok (foreign kind arguments) else .error (uncountable count)
  | _, _ => .ok (foreign kind arguments)

def fileMessage (path : String) : FileFault → String
  | .missing => "[Errno 2] No such file or directory: " ++ Text.quoted path
  | .exists => "[Errno 17] File exists: " ++ Text.quoted path
  | .isDirectory => "[Errno 21] Is a directory: " ++ Text.quoted path
  | .notDirectory => "[Errno 20] Not a directory: " ++ Text.quoted path
  | .nameTooLong => "[Errno 36] File name too long: " ++ Text.quoted path
  | .nulInPath => "embedded null byte"
  | .notUtf8 => ""

/-- The words of a fault itself, if it has any. -/
def ownText : Fault → Option String
  | invalidHexId value => some ("Invalid hex id: " ++ value.quoted)
  | negativeHexId id => some ("Cannot format negative id " ++ toString id ++ " as hex")
  | negativeWidth width =>
    some ("Invalid format specifier '0" ++ toString width ++ "x' for object of type 'int'")
  | hugeWidth => some "Too many decimal digits in format string"
  | infiniteInteger => some "cannot convert float infinity to integer"
  | undefinedInteger => some "cannot convert float NaN to integer"
  | booleanSetting key => some ("Cannot convert setting '" ++ key ++ "' of type bool to int")
  | unreadableSetting key value =>
    some ("Cannot convert setting '" ++ key ++ "' of type " ++ value.typeName ++
      " with value " ++ value.quoted ++ " to int")
  | unknownFormat name => some ("Unknown definition file format '" ++ name ++ "'")
  | invalidLanguage _ => some "Invalid language id in definition"
  | noTextPath source => some ("No file path for text definition: " ++ source.describe)
  | noScriptPaths source =>
    some ("Subtitle definition needs both a lines path and a metadata path: " ++ source.describe)
  | unsupportedText source =>
    some ("Unsupported text format " ++ source.format.name ++ " for " ++ source.path)
  | unsupportedScript source =>
    some ("Unsupported subtitle format " ++ source.format.name ++ " for " ++ source.dialoguePath)
  | noTextLanguage source =>
    some ("No language id specified for " ++ orElse source.path "text")
  | noScriptLanguage source =>
    some ("No language id specified for " ++ orElse source.dialoguePath "subtitles")
  | file fault path => some (fileMessage path fault)
  | document mistake => some mistake.message
  | hugeInteger digits =>
    some ("Exceeds the limit (4300 digits) for integer string conversion: value has " ++
      toString digits ++ " digits; use sys.set_int_max_str_digits() to increase the limit")
  | deepDocument container =>
    some ("maximum recursion depth exceeded while decoding a JSON " ++ container.name ++
      " from a unicode string")
  | deepValue => some "maximum recursion depth exceeded while getting the repr of an object"
  | unwritableInteger =>
    some ("Exceeds the limit (4300 digits) for integer string conversion; " ++
      "use sys.set_int_max_str_digits() to increase the limit")
  | unreadable medium path _ => some (medium.unreadable path)
  | malformedText _ => some "Unable to parse text JSON"
  | shape fault => some fault.message
  | missingTexts part scene texts =>
    some (part.label ++ " '" ++ scene ++ "' has " ++ toString texts ++
      " lines of text but more line metadata entries")
  | reservedGroup group =>
    some ("'" ++ group ++ "' is reserved for the group order and cannot contain scenes")
  | duplicateTable group language =>
    some ("Text group '" ++ group ++ "' already has a bank for language " ++ toString language)
  | duplicateScript language =>
    some ("Subtitle bank for language " ++ toString language ++ " already exists")
  | duplicateScene scene language =>
    some ("Duplicate scene '" ++ scene ++ "' in language " ++ toString language)
  | sceneInTwoGroups scene first second =>
    some ("Scene '" ++ scene ++ "' is in both group '" ++ first ++ "' and group '" ++ second ++ "'")
  | lineNotFound line language =>
    some ("Line " ++ HexId.marked line ++ " does not exist in language " ++ toString language)
  | groupNotFound group => some ("Text group '" ++ group ++ "' does not exist")
  | sceneNotFound scene language =>
    some ("Scene '" ++ scene ++ "' does not exist in language " ++ toString language)
  | remark _ text _ => text
  | remarkOn _ text _ => text
  | foreign kind arguments => some (argumentsText kind arguments)
  | uncountable (.float _) => some "'float' object cannot be interpreted as an integer"
  | uncountable _ => some "cannot fit 'int' into an index-sized integer"

/-- Without words of its own, a fault of the library goes by its kind. -/
def named (kind : Kind) (text : Option String) : String :=
  match text with
  | some words => if words.isEmpty && kind.isOwn then kind.label else words
  | none => if kind.isOwn then kind.label else ""

/-- The words of a fault with those of its cause in brackets. -/
def withCause (text : Option String) (cause : String) : String :=
  match text with
  | some words => if words.isEmpty then cause else words ++ " (" ++ cause ++ ")"
  | none => cause

def message : Fault → String
  | invalidLanguage cause => withCause (invalidLanguage cause).ownText cause.message
  | unreadable medium path cause => withCause (unreadable medium path cause).ownText cause.message
  | malformedText cause => withCause (malformedText cause).ownText cause.message
  | remarkOn _ text cause => withCause text cause.message
  | other => named other.kind other.ownText

/-- A fault whose words name an integer. If it cannot be written, that is the fault. -/
def naming (value : Int) (fault : Fault) : Fault :=
  if Numeral.isWritable value then fault else unwritableInteger

end Fault

end Libretto
