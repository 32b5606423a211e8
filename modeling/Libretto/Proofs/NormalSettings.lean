import Libretto.Settings
import Libretto.Proofs.Edits
import Libretto.Proofs.NormalPaths
import Libretto.Proofs.OrderedMaps

/-! Descriptions read from settings, and read again from their own fields. Reading settles a
description: its paths come into normal form, and it has a version. What is settled is read back as
it is. -/
namespace Libretto

/-- Settings made of the members of settings are those settings. -/
theorem Settings.ofMembers_members (settings : Settings) : ofMembers settings.members = settings :=
  congrArg Settings.mk (OrderedMap.ofList_entries settings.values)

theorem Settings.written_optional {settings : Settings} {key : String} {instead : Value}
    {text : Option String} (found : settings.value key instead = optionalText text) :
    settings.written key instead = .ok text := by
  rw [written, Settings.text, found]
  cases text <;> rfl

theorem pathOf_optional {settings : Settings} {key : String} {path : Option String}
    (found : settings.value key .null = optionalText path) :
    pathOf settings key = .ok (Path.input? path) := by
  rw [pathOf, Settings.written_optional found]
  rfl

theorem Format.ofName_name (format : Format) : ofName (some format.name) = .ok format := by
  cases format <;> rfl

/-- The path of an input that cannot do without one: no path is an empty one. -/
def inputPath (path : String) : String := (Path.input? (some path)).getD ""

theorem inputPath_input? (path : Option String) :
    inputPath ((Path.input? path).getD "") = (Path.input? path).getD "" := by
  have again := Path.input?_input? path
  cases input : Path.input? path with
  | none => rfl
  | some normal =>
    rw [input] at again
    simp [inputPath, again]

theorem pathOf_input {settings : Settings} {key : String} {path : Option String}
    (read : pathOf settings key = .ok path) : ∃ text, path = Path.input? text := by
  obtain ⟨text, -, rfl⟩ := map_ok read
  exact ⟨text, rfl⟩

/-- The version of an input, where an empty one stands for the usual one. -/
def inputVersion (version : String) : String := Fault.orElse version defaultVersion

theorem inputVersion_inputVersion (version : String) :
    inputVersion (inputVersion version) = inputVersion version := by
  unfold inputVersion Fault.orElse
  split
  · rfl
  · simp

theorem textOr_version {settings : Settings} {key version : String}
    (read : settings.textOr key defaultVersion = .ok version) :
    ∃ text, version = inputVersion text := by
  obtain ⟨text, -, rfl⟩ := map_ok read
  exact ⟨text.getD "", rfl⟩

namespace TextSource

/-- A description as it is when its own fields are read. -/
def settled (source : TextSource) : TextSource :=
  { source with path := inputPath source.path, version := inputVersion source.version }

theorem ofSettings_toSettings (source : TextSource) :
    ofSettings source.toSettings = .ok source.settled := by
  have format : source.toSettings.written "format" .null = .ok (some source.format.name) := rfl
  have path : pathOf source.toSettings "file_path" = .ok (Path.input? (some source.path)) := rfl
  have language : languageOf source.toSettings = .ok source.language := rfl
  have version : source.toSettings.textOr "text_version" defaultVersion =
      .ok (inputVersion source.version) := rfl
  have group : source.toSettings.written "group_name" .null = .ok source.group :=
    Settings.written_optional rfl
  simp only [ofSettings, format, Format.ofName_name, path, language, version, group, bind,
    Except.bind]
  rfl

theorem settled_of_read {settings : Settings} {source : TextSource}
    (read : ofSettings settings = .ok source) : source.settled = source := by
  obtain ⟨name, -, read⟩ := bind_ok read
  obtain ⟨format, -, read⟩ := bind_ok read
  obtain ⟨path, found, read⟩ := bind_ok read
  obtain ⟨language, -, read⟩ := bind_ok read
  obtain ⟨version, chosen, read⟩ := bind_ok read
  obtain ⟨group, -, read⟩ := bind_ok read
  cases read
  obtain ⟨text, rfl⟩ := pathOf_input found
  obtain ⟨other, rfl⟩ := textOr_version chosen
  simp only [settled, inputPath_input?, inputVersion_inputVersion]

end TextSource

namespace ScriptSource

/-- A description as it is when its own fields are read. -/
def settled (source : ScriptSource) : ScriptSource :=
  { source with
    version := inputVersion source.version
    dialoguePath := inputPath source.dialoguePath
    dialogueBase := Path.input? source.dialogueBase
    timingPath := inputPath source.timingPath
    timingBase := Path.input? source.timingBase }

theorem ofSettings_toSettings (source : ScriptSource) :
    ofSettings source.toSettings = .ok source.settled := by
  have format : source.toSettings.written "format" .null = .ok (some source.format.name) := rfl
  have language : languageOf source.toSettings = .ok source.language := rfl
  have version : source.toSettings.textOr "text_version" defaultVersion =
      .ok (inputVersion source.version) := rfl
  have dialogue : pathOf source.toSettings "lines_path" =
      .ok (Path.input? (some source.dialoguePath)) := rfl
  have dialogueBase : pathOf source.toSettings "lines_base_path" =
      .ok (Path.input? source.dialogueBase) := pathOf_optional rfl
  have timing : pathOf source.toSettings "meta_path" =
      .ok (Path.input? (some source.timingPath)) := rfl
  have timingBase : pathOf source.toSettings "meta_base_path" =
      .ok (Path.input? source.timingBase) := pathOf_optional rfl
  simp only [ofSettings, format, Format.ofName_name, language, version, dialogue, dialogueBase,
    timing, timingBase, bind, Except.bind]
  rfl

theorem settled_of_read {settings : Settings} {source : ScriptSource}
    (read : ofSettings settings = .ok source) : source.settled = source := by
  obtain ⟨name, -, read⟩ := bind_ok read
  obtain ⟨format, -, read⟩ := bind_ok read
  obtain ⟨language, -, read⟩ := bind_ok read
  obtain ⟨version, chosen, read⟩ := bind_ok read
  obtain ⟨dialogue, spoken, read⟩ := bind_ok read
  obtain ⟨dialogueBase, spokenBase, read⟩ := bind_ok read
  obtain ⟨timing, timed, read⟩ := bind_ok read
  obtain ⟨timingBase, timedBase, read⟩ := bind_ok read
  cases read
  obtain ⟨other, rfl⟩ := textOr_version chosen
  obtain ⟨first, rfl⟩ := pathOf_input spoken
  obtain ⟨second, rfl⟩ := pathOf_input spokenBase
  obtain ⟨third, rfl⟩ := pathOf_input timed
  obtain ⟨fourth, rfl⟩ := pathOf_input timedBase
  simp only [settled, inputPath_input?, inputVersion_inputVersion, Path.input?_input?]

end ScriptSource

/-- A description that was read from settings is read again from its own fields, as it is. And
settings made of settings first describe the same. -/
theorem descriptions_are_read_back :
    (∀ settings : Settings,
      (∀ source, TextSource.ofSettings settings = .ok source →
        TextSource.ofSettings source.toSettings = .ok source) ∧
      TextSource.ofSettings (.ofMembers settings.members) = TextSource.ofSettings settings) ∧
    ∀ settings : Settings,
      (∀ source, ScriptSource.ofSettings settings = .ok source →
        ScriptSource.ofSettings source.toSettings = .ok source) ∧
      ScriptSource.ofSettings (.ofMembers settings.members) = ScriptSource.ofSettings settings := by
  refine ⟨fun settings => ⟨fun source read => ?_, ?_⟩, fun settings => ⟨fun source read => ?_, ?_⟩⟩
  · rw [TextSource.ofSettings_toSettings, TextSource.settled_of_read read]
  · rw [Settings.ofMembers_members]
  · rw [ScriptSource.ofSettings_toSettings, ScriptSource.settled_of_read read]
  · rw [Settings.ofMembers_members]

/-- Paths above and from the root, a hexadecimal and a broken language, a list in the place of a
name and a truth value in that of a version, and settings that are empty or missing. -/
theorem loose_settings_are_read_back :
    let texts : Settings := .ofMembers [("format", .str "gOaL"), ("file_path", .str "//x//../../y/"),
      ("language_id", .str " 0x1F "), ("text_version", .str ""), ("group_name", .list [])]
    let text : TextSource :=
      { format := .goal, path := "//y", language := 31, version := "jak1-v2", group := some "" }
    let scripts : Settings := .ofMembers [("language_id", .float (.finite true 11 (-2))),
      ("text_version", .bool true), ("lines_path", .str "a/../../b/.."), ("lines_base_path", .str ""),
      ("meta_base_path", .str "./")]
    let script : ScriptSource :=
      { language := -2, version := "True", dialoguePath := "..", timingBase := some "." }
    (TextSource.ofSettings texts = .ok text ∧ TextSource.ofSettings text.toSettings = .ok text) ∧
      ScriptSource.ofSettings scripts = .ok script ∧
      ScriptSource.ofSettings script.toSettings = .ok script := by
  intro texts text scripts script
  have readText : TextSource.ofSettings texts = .ok text := ok_of_toOption (by decide +kernel)
  have readScript : ScriptSource.ofSettings scripts = .ok script := ok_of_toOption (by decide +kernel)
  exact ⟨⟨readText, (descriptions_are_read_back.1 texts).1 text readText⟩,
    readScript, (descriptions_are_read_back.2 scripts).1 script readScript⟩

end Libretto
