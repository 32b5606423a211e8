import Libretto.Proofs.LoadFaults

/-! How settings fail to be read. Where an integer is asked for, a value that is none is told as a
fault of its setting, and a description is refused in the library's own words. What passes both are
the faults met on the way to those words: a float without an integer part, and a value that cannot
be put into words. -/
namespace Libretto

namespace Value

/-- A part of a value, so many levels below it. -/
inductive Lies : Nat → Value → Value → Prop
  | self (value : Value) : Lies 0 value value
  | item {depth : Nat} {part item : Value} {items : List Value} (member : item ∈ items)
      (below : Lies depth part item) : Lies (depth + 1) part (.list items)
  | member {depth : Nat} {part value : Value} {name : String} {members : List (String × Value)}
      (member : (name, value) ∈ members) (below : Lies depth part value) :
      Lies (depth + 1) part (.object members)

/-- What stands in the way of words for a value that has room for so many levels: a part at a
level for which there is no room, or a number too long to be written above it. -/
inductive Obstructs (room : Nat) (value : Value) : Fault → Prop
  | deep {part : Value} (lies : Lies room part value) : Obstructs room value .deepValue
  | number {depth : Nat} {number : Int} (within : depth < room)
      (lies : Lies depth (.int number) value) (huge : Numeral.isWritable number = false) :
      Obstructs room value .unwritableInteger

namespace Obstructs
variable {room : Nat} {value : Value} {fault : Fault}

theorem item {items : List Value} (there : value ∈ items) (obstructs : Obstructs room value fault) :
    Obstructs (room + 1) (.list items) fault := by
  cases obstructs with
  | deep lies => exact .deep (.item there lies)
  | number within lies huge => exact .number (Nat.succ_lt_succ within) (.item there lies) huge

theorem member {name : String} {members : List (String × Value)} (there : (name, value) ∈ members)
    (obstructs : Obstructs room value fault) : Obstructs (room + 1) (.object members) fault := by
  cases obstructs with
  | deep lies => exact .deep (.member there lies)
  | number within lies huge => exact .number (Nat.succ_lt_succ within) (.member there lies) huge

theorem of_list {items : List Value} (obstructs : Obstructs (room + 1) (.list items) fault) :
    ∃ item ∈ items, Obstructs room item fault := by
  cases obstructs with
  | deep lies =>
    cases lies with
    | item member below => exact ⟨_, member, .deep below⟩
  | number within lies huge =>
    cases lies with
    | item member below => exact ⟨_, member, .number (Nat.lt_of_succ_lt_succ within) below huge⟩

theorem of_object {members : List (String × Value)}
    (obstructs : Obstructs (room + 1) (.object members) fault) :
    ∃ member ∈ members, Obstructs room member.2 fault := by
  cases obstructs with
  | deep lies =>
    cases lies with
    | member member below => exact ⟨_, member, .deep below⟩
  | number within lies huge =>
    cases lies with
    | member member below =>
      exact ⟨_, member, .number (Nat.lt_of_succ_lt_succ within) below huge⟩

end Obstructs

/-- What is met first stands in the way. Induction on the room, as the search goes down. -/
theorem obstacle?_obstructs {room : Nat} {value : Value} {fault : Fault}
    (met : value.obstacle? room = some fault) : Obstructs room value fault := by
  induction room generalizing value with
  | zero =>
    cases met
    exact .deep (.self value)
  | succ room ih =>
    cases value with
    | int number =>
      simp only [obstacle?] at met
      split at met
      · cases met
      next huge =>
        cases met
        exact .number (Nat.succ_pos room) (.self _) (Bool.eq_false_iff.mpr huge)
    | list items =>
      obtain ⟨item, member, own⟩ := List.exists_of_findSome?_eq_some met
      exact (ih own).item member
    | object members =>
      obtain ⟨⟨name, value⟩, member, own⟩ := List.exists_of_findSome?_eq_some met
      exact (ih own).member member
    | _ => cases met

/-- And where nothing is met nothing does. -/
theorem not_obstructs {room : Nat} {value : Value} (clear : value.obstacle? room = none)
    (fault : Fault) : ¬ Obstructs room value fault := by
  induction room generalizing value with
  | zero => cases clear
  | succ room ih =>
    intro obstructs
    cases value with
    | int number =>
      simp only [obstacle?] at clear
      split at clear
      next writable =>
        cases obstructs with
        | deep lies => cases lies
        | number _ lies huge =>
          cases lies
          rw [writable] at huge
          cases huge
      · cases clear
    | list items =>
      obtain ⟨item, member, own⟩ := obstructs.of_list
      exact ih (List.findSome?_eq_none_iff.mp clear item member) own
    | object members =>
      obtain ⟨entry, member, own⟩ := obstructs.of_object
      exact ih (List.findSome?_eq_none_iff.mp clear entry member) own
    | _ =>
      cases obstructs with
      | deep lies => cases lies
      | number _ lies _ => cases lies

theorem obstacle?_eq_none_iff {room : Nat} {value : Value} :
    value.obstacle? room = none ↔ ∀ fault, ¬ value.Obstructs room fault := by
  refine ⟨not_obstructs, fun clear => ?_⟩
  cases met : value.obstacle? room with
  | none => rfl
  | some fault => exact absurd (obstacle?_obstructs met) (clear fault)

/-- The faults that come of a value in the place of an integer and are not told as faults of its
setting. -/
inductive Defeats : Value → Fault → Prop
  | infinite (negative : Bool) : Defeats (.float (.infinite negative)) .infiniteInteger
  | undefined : Defeats (.float .notANumber) .undefinedInteger
  | list {items : List Value} {fault : Fault}
      (met : (Value.list items).obstacle? depthLimit = some fault) : Defeats (.list items) fault
  | object {members : List (String × Value)} {fault : Fault}
      (met : (Value.object members).obstacle? depthLimit = some fault) :
      Defeats (.object members) fault

theorem obstacle?_foreign {room : Nat} {value : Value} {fault : Fault}
    (met : value.obstacle? room = some fault) : ¬ fault.Own ∧ fault.kind ≠ .settings := by
  cases obstacle?_obstructs met <;> exact ⟨nofun, nofun⟩

theorem Defeats.foreign {value : Value} {fault : Fault} (defeats : value.Defeats fault) :
    ¬ fault.Own ∧ fault.kind ≠ .settings := by
  cases defeats with
  | infinite | undefined => exact ⟨nofun, nofun⟩
  | list met | object met => exact obstacle?_foreign met

end Value

namespace Fault
variable {α : Type} {value : Value} {fault : Fault} {result : Except Fault α}

theorem telling_obstacle (met : value.obstacle? Value.depthLimit = some fault) :
    telling value result = .error fault := by
  rw [telling, met]

theorem telling_faults {property : Fault → Prop}
    (own : ∀ fault, value.obstacle? Value.depthLimit = some fault → property fault)
    (rest : FailsAs property result) : FailsAs property (telling value result) := by
  unfold telling
  split
  next fault met => exact .error (own fault met)
  · exact rest

end Fault

namespace Settings
variable (settings : Settings)

theorem toInt_faults (key : String) (value : Value) :
    FailsAs (fun fault => fault.kind = .settings ∨ value.Defeats fault) (toInt key value) := by
  cases value with
  | null | int => exact .ok _
  | bool => exact .error (.inl rfl)
  | float number =>
    cases number with
    | notANumber => exact .error (.inr .undefined)
    | infinite negative => exact .error (.inr (.infinite negative))
    | finite => exact .ok _
  | str text =>
    cases read : Numeral.read? text with
    | some number =>
      simp only [toInt, read]
      exact .ok _
    | none =>
      simp only [toInt, read]
      exact .error (.inl rfl)
  | list => exact Fault.telling_faults (fun fault met => .inr (.list met)) (.error (.inl rfl))
  | object => exact Fault.telling_faults (fun fault met => .inr (.object met)) (.error (.inl rfl))

theorem toInt_defeated (key : String) {value : Value} {fault : Fault}
    (defeats : value.Defeats fault) : toInt key value = .error fault := by
  cases defeats with
  | infinite | undefined => rfl
  | list met | object met => exact Fault.telling_obstacle met

/-- The faults that a setting lets through to a description: of the language in the place of an
integer, and of the texts that are read of other settings. -/
inductive LetsThrough (texts : List String) : Fault → Prop
  | language {value : Value} {fault : Fault}
      (there : settings.values.find? "language_id" = some value) (defeats : value.Defeats fault) :
      LetsThrough texts fault
  | text {key : String} {value : Value} {fault : Fault} (read : key ∈ texts)
      (there : settings.values.find? key = some value)
      (met : value.obstacle? Value.depthLimit = some fault) : LetsThrough texts fault

variable {settings} {texts : List String} {key : String}

theorem LetsThrough.foreign {fault : Fault} (through : settings.LetsThrough texts fault) :
    ¬ fault.Own := by
  cases through with
  | language _ defeats => exact defeats.foreign.1
  | text _ _ met => exact (Value.obstacle?_foreign met).1

/-- A setting is there, or another value stands in its place. -/
theorem value_found (settings : Settings) (key : String) (instead : Value) :
    settings.values.find? key = some (settings.value key instead) ∨
      settings.value key instead = instead := by
  unfold Settings.value
  cases settings.values.find? key with
  | none => exact .inr rfl
  | some value => exact .inl rfl

/-- What is known of a description that is refused. -/
def Refuses (settings : Settings) (texts : List String) (fault : Fault) : Prop :=
  fault.Own ∨ settings.LetsThrough texts fault

theorem written_faults (read : key ∈ texts) {instead : Value}
    (clear : instead.obstacle? Value.depthLimit = none) :
    FailsAs (settings.Refuses texts) (settings.written key instead) := by
  refine Fault.telling_faults (fun fault met => ?_) (.ok _)
  rcases settings.value_found key instead with there | missing
  · exact .inr (.text read there met)
  · rw [missing, clear] at met
    cases met

theorem pathOf_faults (read : key ∈ texts) :
    FailsAs (settings.Refuses texts) (pathOf settings key) :=
  (written_faults read rfl).map Path.input?

theorem textOr_faults (read : key ∈ texts) (instead : String) :
    FailsAs (settings.Refuses texts) (settings.textOr key instead) :=
  (written_faults read rfl).map _

theorem languageOf_faults (texts : List String) :
    FailsAs (settings.Refuses texts) (languageOf settings) := by
  unfold languageOf Settings.int
  split
  · exact .ok _
  next fault failed =>
    refine .error ?_
    rcases toInt_faults _ _ fault failed with own | defeats
    · rw [if_pos own]
      exact .inl rfl
    · rw [if_neg defeats.foreign.2]
      rcases settings.value_found "language_id" (.int (-1)) with there | missing
      · exact .inr (.language there defeats)
      · rw [missing] at defeats
        cases defeats

theorem languageOf_defeated {value : Value} {fault : Fault}
    (there : settings.values.find? "language_id" = some value) (defeats : value.Defeats fault) :
    languageOf settings = .error fault := by
  have failed : settings.int "language_id" (.int (-1)) = .error fault := by
    rw [Settings.int, Settings.value, there]
    exact toInt_defeated _ defeats
  rw [languageOf, failed]
  dsimp only
  rw [if_neg defeats.foreign.2]

/-- What a setting holds can be put into words. -/
def Clear (settings : Settings) (key : String) : Prop :=
  ∀ value, settings.values.find? key = some value → value.obstacle? Value.depthLimit = none

theorem written_clear {instead : Value} {text : Option String}
    (read : settings.written key instead = .ok text) : settings.Clear key := by
  intro value there
  cases met : value.obstacle? Value.depthLimit with
  | none => rfl
  | some fault =>
    rw [written, Settings.value, there, Option.getD_some, Fault.telling_obstacle met] at read
    cases read

theorem pathOf_clear {path : Option String} (read : pathOf settings key = .ok path) :
    settings.Clear key := by
  obtain ⟨text, read, -⟩ := map_ok read
  exact written_clear read

theorem textOr_clear {instead text : String} (read : settings.textOr key instead = .ok text) :
    settings.Clear key := by
  obtain ⟨text, read, -⟩ := map_ok read
  exact written_clear read

/-- Where a language and all texts are read no fault is let through. -/
theorem not_letsThrough {language : Int} (read : languageOf settings = .ok language)
    (clear : ∀ key ∈ texts, settings.Clear key) (fault : Fault) :
    ¬ settings.LetsThrough texts fault := by
  intro through
  cases through with
  | language there defeats =>
    rw [languageOf_defeated there defeats] at read
    cases read
  | text member there met =>
    rw [clear _ member _ there] at met
    cases met

end Settings

theorem Format.ofName_faults (name : Option String) : FailsAs Fault.Own (Format.ofName name) := by
  unfold ofName
  split
  · exact .ok _
  · dsimp only
    split
    · exact .ok _
    split
    · exact .ok _
    split
    · exact .ok _
    · exact .error rfl

/-- The format that settings name. -/
def formatOf (settings : Settings) : Except Fault Format := do
  Format.ofName (← settings.written "format" .null)

theorem formatOf_faults {settings : Settings} {texts : List String} (read : "format" ∈ texts) :
    FailsAs (settings.Refuses texts) (formatOf settings) :=
  .bind (Settings.written_faults read rfl) fun name =>
    (Format.ofName_faults name).mono fun _ => .inl

theorem formatOf_clear {settings : Settings} {format : Format}
    (read : formatOf settings = .ok format) : settings.Clear "format" := by
  obtain ⟨name, read, -⟩ := bind_ok read
  exact Settings.written_clear read

namespace TextSource

/-- The settings of which a text is read. -/
def textKeys : List String := ["format", "file_path", "text_version", "group_name"]

theorem ofSettings_eq (settings : Settings) : ofSettings settings = (do
    let format ← formatOf settings
    let path ← pathOf settings "file_path"
    let language ← languageOf settings
    let version ← settings.textOr "text_version" defaultVersion
    let group ← settings.written "group_name" .null
    .ok { format, path := path.getD "", language, version, group }) := by
  unfold ofSettings formatOf
  rw [bind_assoc]

theorem ofSettings_faults (settings : Settings) :
    FailsAs (settings.Refuses textKeys) (ofSettings settings) := by
  rw [ofSettings_eq]
  refine .bind (formatOf_faults (by decide)) fun format => ?_
  refine .bind (Settings.pathOf_faults (by decide)) fun path => ?_
  refine .bind (Settings.languageOf_faults _) fun language => ?_
  refine .bind (Settings.textOr_faults (by decide) _) fun version => ?_
  exact .bind (Settings.written_faults (by decide) rfl) fun group => .ok _

theorem ofSettings_clear {settings : Settings} {source : TextSource}
    (read : ofSettings settings = .ok source) (fault : Fault) :
    ¬ settings.LetsThrough textKeys fault := by
  rw [ofSettings_eq] at read
  obtain ⟨format, named, read⟩ := bind_ok read
  obtain ⟨path, placed, read⟩ := bind_ok read
  obtain ⟨language, spoken, read⟩ := bind_ok read
  obtain ⟨version, chosen, read⟩ := bind_ok read
  obtain ⟨group, joined, -⟩ := bind_ok read
  refine Settings.not_letsThrough spoken (fun key member => ?_) fault
  simp only [textKeys, List.mem_cons, List.not_mem_nil, or_false] at member
  rcases member with rfl | rfl | rfl | rfl
  · exact formatOf_clear named
  · exact Settings.pathOf_clear placed
  · exact Settings.textOr_clear chosen
  · exact Settings.written_clear joined

/-- A language that defeats its reading spoils a text whose format and path are read. -/
theorem ofSettings_defeated {settings : Settings} {format : Format} {path : Option String}
    {value : Value} {fault : Fault} (named : formatOf settings = .ok format)
    (placed : pathOf settings "file_path" = .ok path)
    (there : settings.values.find? "language_id" = some value) (defeats : value.Defeats fault) :
    ofSettings settings = .error fault := by
  rw [ofSettings_eq, named, placed, Settings.languageOf_defeated there defeats]
  rfl

end TextSource

namespace ScriptSource

/-- The settings of which a script is read. -/
def textKeys : List String :=
  ["format", "text_version", "lines_path", "lines_base_path", "meta_path", "meta_base_path"]

theorem ofSettings_eq (settings : Settings) : ofSettings settings = (do
    let format ← formatOf settings
    let language ← languageOf settings
    let version ← settings.textOr "text_version" defaultVersion
    let dialoguePath ← pathOf settings "lines_path"
    let dialogueBase ← pathOf settings "lines_base_path"
    let timingPath ← pathOf settings "meta_path"
    let timingBase ← pathOf settings "meta_base_path"
    .ok {
      format, language, version, dialogueBase, timingBase
      dialoguePath := dialoguePath.getD ""
      timingPath := timingPath.getD "" }) := by
  unfold ofSettings formatOf
  rw [bind_assoc]

theorem ofSettings_faults (settings : Settings) :
    FailsAs (settings.Refuses textKeys) (ofSettings settings) := by
  rw [ofSettings_eq]
  refine .bind (formatOf_faults (by decide)) fun format => ?_
  refine .bind (Settings.languageOf_faults _) fun language => ?_
  refine .bind (Settings.textOr_faults (by decide) _) fun version => ?_
  refine .bind (Settings.pathOf_faults (by decide)) fun dialoguePath => ?_
  refine .bind (Settings.pathOf_faults (by decide)) fun dialogueBase => ?_
  refine .bind (Settings.pathOf_faults (by decide)) fun timingPath => ?_
  exact .bind (Settings.pathOf_faults (by decide)) fun timingBase => .ok _

theorem ofSettings_clear {settings : Settings} {source : ScriptSource}
    (read : ofSettings settings = .ok source) (fault : Fault) :
    ¬ settings.LetsThrough textKeys fault := by
  rw [ofSettings_eq] at read
  obtain ⟨format, named, read⟩ := bind_ok read
  obtain ⟨language, spoken, read⟩ := bind_ok read
  obtain ⟨version, chosen, read⟩ := bind_ok read
  obtain ⟨dialogue, dialogueAt, read⟩ := bind_ok read
  obtain ⟨dialogueBase, dialogueBaseAt, read⟩ := bind_ok read
  obtain ⟨timing, timingAt, read⟩ := bind_ok read
  obtain ⟨timingBase, timingBaseAt, -⟩ := bind_ok read
  refine Settings.not_letsThrough spoken (fun key member => ?_) fault
  simp only [textKeys, List.mem_cons, List.not_mem_nil, or_false] at member
  rcases member with rfl | rfl | rfl | rfl | rfl | rfl
  · exact formatOf_clear named
  · exact Settings.textOr_clear chosen
  · exact Settings.pathOf_clear dialogueAt
  · exact Settings.pathOf_clear dialogueBaseAt
  · exact Settings.pathOf_clear timingAt
  · exact Settings.pathOf_clear timingBaseAt

/-- A language that defeats its reading spoils a script whose format is read. -/
theorem ofSettings_defeated {settings : Settings} {format : Format} {value : Value} {fault : Fault}
    (named : formatOf settings = .ok format)
    (there : settings.values.find? "language_id" = some value) (defeats : value.Defeats fault) :
    ofSettings settings = .error fault := by
  rw [ofSettings_eq, named, Settings.languageOf_defeated there defeats]
  rfl

end ScriptSource

/-- An integer that cannot be read is a fault of its setting, and a description that cannot be read
is refused in the library's own words, but for the faults that the settings let through. These are
neither: the whole of what cannot be told. A description that is read has met none of them, and a
language that defeats its reading stops every description that comes as far as it. -/
theorem settings_are_refused_in_own_words_or_let_faults_through (settings : Settings) :
    (∀ (key : String) (instead : Value),
      FailsAs (fun fault => fault.kind = .settings ∨ (settings.value key instead).Defeats fault)
        (settings.int key instead) ∧
      ∀ fault, (settings.value key instead).Defeats fault →
        settings.int key instead = .error fault ∧ fault.kind ≠ .settings) ∧
    (FailsAs (fun fault => fault.Own ∨ settings.LetsThrough TextSource.textKeys fault)
        (TextSource.ofSettings settings) ∧
      (∀ source, TextSource.ofSettings settings = .ok source →
        ∀ fault, ¬ settings.LetsThrough TextSource.textKeys fault) ∧
      ∀ format path value fault, formatOf settings = .ok format →
        pathOf settings "file_path" = .ok path →
        settings.values.find? "language_id" = some value → value.Defeats fault →
        TextSource.ofSettings settings = .error fault) ∧
    (FailsAs (fun fault => fault.Own ∨ settings.LetsThrough ScriptSource.textKeys fault)
        (ScriptSource.ofSettings settings) ∧
      (∀ source, ScriptSource.ofSettings settings = .ok source →
        ∀ fault, ¬ settings.LetsThrough ScriptSource.textKeys fault) ∧
      ∀ format value fault, formatOf settings = .ok format →
        settings.values.find? "language_id" = some value → value.Defeats fault →
        ScriptSource.ofSettings settings = .error fault) ∧
    (∀ texts fault, settings.LetsThrough texts fault → ¬ fault.Own) ∧
    ∀ (room : Nat) (value : Value),
      (value.obstacle? room = none ↔ ∀ fault, ¬ value.Obstructs room fault) ∧
      ∀ fault, value.obstacle? room = some fault → value.Obstructs room fault := by
  refine ⟨fun key instead => ⟨Settings.toInt_faults key _, fun fault defeats =>
      ⟨Settings.toInt_defeated key defeats, defeats.foreign.2⟩⟩,
    ⟨TextSource.ofSettings_faults settings, fun source => TextSource.ofSettings_clear,
      fun format path value fault => TextSource.ofSettings_defeated⟩,
    ⟨ScriptSource.ofSettings_faults settings, fun source => ScriptSource.ofSettings_clear,
      fun format value fault => ScriptSource.ofSettings_defeated⟩,
    fun texts fault => Settings.LetsThrough.foreign,
    fun room value => ⟨Value.obstacle?_eq_none_iff, fun fault => Value.obstacle?_obstructs⟩⟩

/-- A truth value and an unknown format are refused in the library's own words, a language that is
not a number is not, and a description whose group is a list is read. -/
theorem marked_integer_is_told_and_undefined_language_is_not :
    let marked : Settings := .ofMembers [("n", .bool true), ("format", .str "xml")]
    let undefined : Settings := .ofMembers [("language_id", .float .notANumber)]
    let plain : Settings := .ofMembers [("language_id", .str "010"), ("group_name", .list [.null])]
    ((marked.int "n" .null = .error (.booleanSetting "n") ∧
        (Fault.booleanSetting "n").kind = .settings) ∧
      TextSource.ofSettings marked = .error (.unknownFormat "xml") ∧
      ScriptSource.ofSettings marked = .error (.unknownFormat "xml") ∧
      (Fault.unknownFormat "xml").Own) ∧
    (undefined.int "language_id" .null = .error .undefinedInteger ∧
      TextSource.ofSettings undefined = .error .undefinedInteger ∧
      ScriptSource.ofSettings undefined = .error .undefinedInteger ∧
      Fault.undefinedInteger.kind ≠ .settings ∧ ¬ Fault.undefinedInteger.Own) ∧
    (TextSource.ofSettings plain = .ok { language := 10, path := "", group := some "None" } ∧
      ∀ fault, ¬ plain.LetsThrough TextSource.textKeys fault) ∧
    (Value.list [.null]).Obstructs 1 .deepValue := by
  intro marked undefined plain
  obtain ⟨integers, texts, scripts, foreign, obstacles⟩ :=
    settings_are_refused_in_own_words_or_let_faults_through marked
  have noInteger : marked.int "n" .null = .error (.booleanSetting "n") := rfl
  have named : marked.written "format" .null = .ok (some "xml") := rfl
  have unknown : Format.ofName (some "xml") = .error (.unknownFormat "xml") := by
    simp [Format.ofName]
  have noText : TextSource.ofSettings marked = .error (.unknownFormat "xml") := by
    simp only [TextSource.ofSettings, named, bind, Except.bind, unknown]
  have noScript : ScriptSource.ofSettings marked = .error (.unknownFormat "xml") := by
    simp only [ScriptSource.ofSettings, named, bind, Except.bind, unknown]
  have own : (Fault.unknownFormat "xml").Own := (texts.1 _ noText).resolve_right fun through =>
    foreign _ _ through rfl
  obtain ⟨noNumber, undefinedTexts, undefinedScripts, undefinedForeign, -⟩ :=
    settings_are_refused_in_own_words_or_let_faults_through undefined
  obtain ⟨failed, unsettled⟩ := (noNumber "language_id" .null).2 _ .undefined
  have there : undefined.values.find? "language_id" = some (.float .notANumber) := rfl
  have read : TextSource.ofSettings plain =
      .ok { language := 10, path := "", group := some "None" } := rfl
  have told : (Fault.booleanSetting "n").kind = .settings := by
    rcases (integers "n" .null).1 _ noInteger with settings | defeats
    · exact settings
    · cases defeats
  exact ⟨⟨⟨noInteger, told⟩, noText, noScript, own⟩,
    ⟨failed, undefinedTexts.2.2 .json none _ _ rfl rfl there .undefined,
      undefinedScripts.2.2 .json _ _ rfl there .undefined, unsettled,
      undefinedForeign [] _ (.language there .undefined)⟩,
    ⟨read, (settings_are_refused_in_own_words_or_let_faults_through plain).2.1.2.1 _ read⟩,
    (obstacles 1 _).2 _ rfl⟩

/-- An infinite language is no integer, but neither is it told as a fault of its setting nor is the
description refused in the library's own words. -/
theorem infinite_language_is_not_told :
    let settings : Settings := .ofMembers [("language_id", .float (.infinite false))]
    settings.int "language_id" .null = .error .infiniteInteger ∧
      TextSource.ofSettings settings = .error .infiniteInteger ∧
      ScriptSource.ofSettings settings = .error .infiniteInteger ∧
      Fault.infiniteInteger.kind ≠ .settings ∧ ¬ Fault.infiniteInteger.Own := by
  refine ⟨rfl, ?_, ?_, nofun, nofun⟩
  · exact TextSource.ofSettings_defeated rfl rfl rfl (.infinite false)
  · exact ScriptSource.ofSettings_defeated rfl rfl (.infinite false)

end Libretto
