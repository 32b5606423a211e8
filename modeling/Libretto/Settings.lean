import Libretto.Fault
import Libretto.Numeral

/-! Settings of any type by name, read as integers or as texts, and the descriptions of
inputs that are made from them. -/
namespace Libretto

namespace Value

/-- Values are put into words down to this depth, as far as the stack has room below the caller.
The number is that of one caller, as for documents. -/
def depthLimit : Nat := 986

/-- What keeps a value from being put into words, as it is met first from left to right: a part
that lies too deep, or an integer that cannot be written. -/
def obstacle? : Nat → Value → Option Fault
  | 0, _ => some .deepValue
  | room + 1, value => match value with
    | int number => if Numeral.isWritable number then none else some .unwritableInteger
    | list items => items.findSome? (obstacle? room)
    | object members => members.findSome? fun (_, value) => obstacle? room value
    | _ => none

end Value

/-- Goes on with a result that names a value, if the value can be put into words. -/
def Fault.telling (value : Value) (result : Except Fault α) : Except Fault α :=
  match value.obstacle? Value.depthLimit with
  | some fault => .error fault
  | none => result

structure Settings where
  values : OrderedMap String Value

namespace Settings

def empty : Settings := ⟨.empty⟩

def ofMembers (members : List (String × Value)) : Settings := ⟨.ofList members⟩
def members (settings : Settings) : List (String × Value) := settings.values.entries

/-- A setting, or a value in place of one that is not there. -/
def value (settings : Settings) (key : String) (instead : Value) : Value :=
  (settings.values.find? key).getD instead

/-- The integer that a value stands for. A float loses its fraction, a text is read as a
number, and a truth value is no integer. -/
def toInt (key : String) : Value → Except Fault (Option Int)
  | .null => .ok none
  | .bool _ => .error (.booleanSetting key)
  | .int value => .ok (some value)
  | .float .notANumber => .error .undefinedInteger
  | .float (.infinite _) => .error .infiniteInteger
  | .float (.finite negative significand exponent) =>
    .ok (Binary64.finite negative significand exponent).truncate?
  | .str text => match Numeral.read? text with
    | some value => .ok (some value)
    | none => .error (.unreadableSetting key (.str text))
  | other => Fault.telling other (.error (.unreadableSetting key other))

/-- The text that a value stands for, the items of a list separated by commas. -/
def toText : Value → Option String
  | .null => none
  | .list items => some (String.intercalate ", " (items.map Value.text))
  | other => some other.text

def int (settings : Settings) (key : String) (instead : Value) : Except Fault (Option Int) :=
  toInt key (settings.value key instead)

def text (settings : Settings) (key : String) (instead : Value) : Option String :=
  toText (settings.value key instead)

/-- The text of a setting whose value can be put into words. -/
def written (settings : Settings) (key : String) (instead : Value) :
    Except Fault (Option String) :=
  Fault.telling (settings.value key instead) (.ok (settings.text key instead))

/-- The text of a setting, or another one where it is missing or empty. -/
def textOr (settings : Settings) (key instead : String) : Except Fault String :=
  (settings.written key (.str instead)).map fun text => Fault.orElse (text.getD "") instead

end Settings

/-- Names of formats are read without regard to case. No name means JSON. -/
def Format.ofName (name : Option String) : Except Fault Format :=
  match name with
  | none => .ok .json
  | some name =>
    if name.isEmpty then .ok .json
    else
      let lower := name.toList.map Char.toLower
      if lower = "goal".toList then .ok .goal
      else if lower = "json".toList then .ok .json
      else .error (.unknownFormat name)

/-- The language of an input. What cannot be read as an integer spoils the description. -/
def languageOf (settings : Settings) : Except Fault Int :=
  match settings.int "language_id" (.int (-1)) with
  | .ok language => .ok (language.getD (-1))
  | .error fault => .error (if fault.kind = .settings then .invalidLanguage fault else fault)

def pathOf (settings : Settings) (key : String) : Except Fault (Option String) :=
  (settings.written key .null).map Path.input?

def TextSource.ofSettings (settings : Settings) : Except Fault TextSource := do
  let format ← Format.ofName (← settings.written "format" .null)
  let path ← pathOf settings "file_path"
  let language ← languageOf settings
  let version ← settings.textOr "text_version" defaultVersion
  let group ← settings.written "group_name" .null
  .ok { format, path := path.getD "", language, version, group }

def ScriptSource.ofSettings (settings : Settings) : Except Fault ScriptSource := do
  let format ← Format.ofName (← settings.written "format" .null)
  let language ← languageOf settings
  let version ← settings.textOr "text_version" defaultVersion
  let dialoguePath ← pathOf settings "lines_path"
  let dialogueBase ← pathOf settings "lines_base_path"
  let timingPath ← pathOf settings "meta_path"
  let timingBase ← pathOf settings "meta_base_path"
  .ok {
    format, language, version, dialogueBase, timingBase
    dialoguePath := dialoguePath.getD ""
    timingPath := timingPath.getD "" }

def optionalText : Option String → Value
  | some text => .str text
  | none => .null

/-- The description of an input in words, if its language can be written. -/
def TextSource.inWords (source : TextSource) : Except Fault String :=
  if Numeral.isWritable source.language then .ok source.describe else .error .unwritableInteger

def ScriptSource.inWords (source : ScriptSource) : Except Fault String :=
  if Numeral.isWritable source.language then .ok source.describe else .error .unwritableInteger

/-- The fields of a description as settings. -/
def TextSource.toSettings (source : TextSource) : Settings :=
  .ofMembers [
    ("format", .str source.format.name),
    ("file_path", .str source.path),
    ("language_id", .int source.language),
    ("text_version", .str source.version),
    ("group_name", optionalText source.group)]

def ScriptSource.toSettings (source : ScriptSource) : Settings :=
  .ofMembers [
    ("format", .str source.format.name),
    ("language_id", .int source.language),
    ("text_version", .str source.version),
    ("lines_path", .str source.dialoguePath),
    ("lines_base_path", optionalText source.dialogueBase),
    ("meta_path", .str source.timingPath),
    ("meta_base_path", optionalText source.timingBase)]

end Libretto
