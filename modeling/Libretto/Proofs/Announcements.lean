import Libretto.Proofs.StoredScenes

/-! What the audience of a store can tell from its events alone. For each language the scenes
that were added are those that the script has, so the events of a scene that comes in are tied to
whether its name was there. The scenes of a new script are announced before the script is, so in
between the two the events are ahead of the store; a call leaves them in step. The one exception is
a language that cannot be named: what comes in under it comes in unheard. -/
namespace Libretto

/-- The scenes that a language was told to have got. -/
def addedTo (language : Int) (sent : List Event) : List String :=
  sent.filterMap fun
    | .sceneAdded other scene _ => if other = language then some scene else none
    | _ => none

/-- How often a script was announced for a language. -/
def timesOpened (language : Int) (sent : List Event) : Nat :=
  sent.countP fun
    | .scriptAdded other _ => other = language
    | _ => false

/-- Only scenes that were added before are replaced. -/
def ReplacedLater (sent : List Event) : Prop :=
  ∀ earlier language scene lines later,
    sent = earlier ++ .sceneReplaced language scene lines :: later →
      scene ∈ addedTo language earlier

/-- Events agree with a store, in the languages that can be named. Of another language they say
nothing. -/
structure Mirrored (store : ScriptStore) (sent : List Event) : Prop where
  distinct : ∀ language, (addedTo language sent).Nodup
  scenes : ∀ language name, name ∈ addedTo language sent ↔
    Numeral.isWritable language ∧ (store.scene? language name).isSome
  scripts : ∀ language, timesOpened language sent =
    if Numeral.isWritable language ∧ store.hasScript language then 1 else 0
  replaced : ReplacedLater sent

/-- Calls after which whoever listens to the store has heard of all there is in it. -/
def Call.Announced : Call → Prop
  | addScript script => script.scenes = .empty ∧ script.audience = none
  | _ => True

/-- What the calls of a run tell, those that fail among them. -/
def Desk.told (desk : Desk) : List Call → List Entry
  | [] => []
  | call :: calls =>
    (call.perform desk).journal ++ told (call.perform desk).state calls

section lists
variable {sent told : List Event} {event : Event} {language : Int}

@[simp] theorem addedTo_append (language : Int) (sent told : List Event) :
    addedTo language (sent ++ told) = addedTo language sent ++ addedTo language told :=
  List.filterMap_append

@[simp] theorem timesOpened_append (language : Int) (sent told : List Event) :
    timesOpened language (sent ++ told) = timesOpened language sent + timesOpened language told :=
  List.countP_append

@[simp] theorem addedTo_sceneAdded (language other : Int) (scene : String) (lines : Nat) :
    addedTo language [.sceneAdded other scene lines] =
      if other = language then [scene] else [] := by
  by_cases same : other = language <;> simp [addedTo, same]

@[simp] theorem addedTo_sceneReplaced (language other : Int) (scene : String) (lines : Nat) :
    addedTo language [.sceneReplaced other scene lines] = [] := rfl

@[simp] theorem addedTo_scriptAdded (language other : Int) (scenes : Nat) :
    addedTo language [.scriptAdded other scenes] = [] := rfl

@[simp] theorem timesOpened_scriptAdded (language other : Int) (scenes : Nat) :
    timesOpened language [.scriptAdded other scenes] = if other = language then 1 else 0 := by
  by_cases same : other = language <;> simp [timesOpened, same]

@[simp] theorem addedTo_filter (language : Int) (sent : List Event) :
    addedTo language (sent.filter Event.isChange) = addedTo language sent := by
  rw [addedTo, List.filterMap_filter, addedTo]
  refine congrArg (List.filterMap · sent) (funext fun event => ?_)
  cases event <;> rfl

@[simp] theorem addedTo_changes (language : Int) (journal : List Entry) :
    addedTo language (changes journal) = addedTo language (events journal) :=
  addedTo_filter language (events journal)

@[simp] theorem timesOpened_changes (language : Int) (journal : List Entry) :
    timesOpened language (changes journal) = timesOpened language (events journal) := by
  rw [timesOpened, changes, List.countP_filter, timesOpened]
  refine congrArg (List.countP · (events journal)) (funext fun event => ?_)
  cases event <;> simp [Event.isChange]

theorem ReplacedLater.append_one (ordered : ReplacedLater sent)
    (known : ∀ language scene lines, event = .sceneReplaced language scene lines →
      scene ∈ addedTo language sent) : ReplacedLater (sent ++ [event]) := by
  intro earlier language scene lines later split
  obtain ⟨more, before, rest⟩ | ⟨more, before, rest⟩ := List.append_eq_append_iff.mp split
  · cases more with
    | nil =>
      rw [List.append_nil] at before
      cases rest
      rw [before]
      exact known language scene lines rfl
    | cons first more => simp at rest
  · cases more with
    | nil =>
      rw [List.append_nil] at before
      cases rest
      rw [← before]
      exact known language scene lines rfl
    | cons first more =>
      cases rest
      exact ordered earlier language scene lines more before

end lists

/-- The audience that records what it hears. -/
def recording (loggers : Bool) : Option Audience := some ⟨true, loggers⟩

/-- Events agree with one script, if its language can be named. -/
structure Lists (script : Script) (sent : List Event) : Prop where
  distinct : (addedTo script.language sent).Nodup
  scenes : ∀ name, name ∈ addedTo script.language sent ↔
    Numeral.isWritable script.language ∧ script.hasScene name

namespace Script
variable {script : Script} {scene : Scene} {loggers : Bool} {sent : List Event}

theorem changes_noted (heard : script.audience = recording loggers)
    (writable : Numeral.isWritable script.language = true) (scene : Scene) :
    changes (script.noted scene) = [if script.hasScene scene.name then
      .sceneReplaced script.language scene.name scene.lines.length
      else .sceneAdded script.language scene.name scene.lines.length] := by
  rw [noted, if_pos writable]
  split <;> rw [heard] <;> rfl

/-- Whether a scene is new is seen in the events as it is in the script. -/
theorem noted_lists (heard : script.audience = recording loggers) (lists : Lists script sent)
    (ordered : ReplacedLater sent) (scene : Scene) :
    Lists (script.override scene) (sent ++ changes (script.noted scene)) ∧
      ReplacedLater (sent ++ changes (script.noted scene)) := by
  have known := lists.scenes scene.name
  have language : (script.override scene).language = script.language := rfl
  cases writable : Numeral.isWritable script.language with
  | false =>
    rw [noted_unwritable writable, changes_nil, List.append_nil]
    refine ⟨⟨lists.distinct, fun name => ?_⟩, ordered⟩
    rw [language, lists.scenes, writable]
    simp only [Bool.false_eq_true, false_and]
  | true =>
    rw [changes_noted heard writable]
    simp only [writable, true_and] at known
    cases present : script.hasScene scene.name with
    | true =>
      have there : scene.name ∈ addedTo script.language sent := known.mpr present
      refine ⟨⟨?_, fun name => ?_⟩, ordered.append_one ?_⟩
      · simpa [language] using lists.distinct
      · simp only [if_true, language, addedTo_append, addedTo_sceneReplaced, List.append_nil,
          lists.scenes, hasScene_override, Bool.or_eq_true, decide_eq_true_eq]
        exact and_congr_right fun _ =>
          ⟨.inr, fun either => either.elim (fun same => same ▸ present) id⟩
      · intro other name lines equal
        cases equal
        exact there
    | false =>
      have absent : scene.name ∉ addedTo script.language sent := by simp [known, present]
      refine ⟨⟨?_, fun name => ?_⟩, ordered.append_one ?_⟩
      · simp only [Bool.false_eq_true, if_false, language, addedTo_append, addedTo_sceneAdded,
          if_true]
        refine List.nodup_append.mpr ⟨lists.distinct, by simp, ?_⟩
        rintro name member _ last rfl
        exact absent (List.mem_singleton.mp last ▸ member)
      · simp only [Bool.false_eq_true, if_false, if_true, language, addedTo_append,
          addedTo_sceneAdded, List.mem_append, List.mem_singleton, lists.scenes,
          hasScene_override, Bool.or_eq_true, decide_eq_true_eq, writable, true_and]
        exact or_comm.trans (or_congr_left eq_comm)
      · intro other name lines equal
        cases equal

theorem noted_elsewhere (heard : script.audience = recording loggers) (scene : Scene) :
    (∀ language, language ≠ script.language →
      addedTo language (changes (script.noted scene)) = []) ∧
    ∀ language, timesOpened language (changes (script.noted scene)) = 0 := by
  cases writable : Numeral.isWritable script.language with
  | false =>
    rw [noted_unwritable writable]
    exact ⟨fun _ _ => rfl, fun _ => rfl⟩
  | true =>
    rw [changes_noted heard writable]
    split
    · exact ⟨fun _ _ => rfl, fun _ => rfl⟩
    · exact ⟨fun _ other => by simp [Ne.symm other], fun _ => rfl⟩

theorem notedAll_lists (scenes : List Scene) (heard : script.audience = recording loggers)
    (lists : Lists script sent) (ordered : ReplacedLater sent) :
    Lists (script.overrideAll scenes) (sent ++ changes (script.notedAll scenes)) ∧
      ReplacedLater (sent ++ changes (script.notedAll scenes)) := by
  induction scenes generalizing script sent with
  | nil =>
    simp only [notedAll, changes_nil, List.append_nil]
    exact ⟨lists, ordered⟩
  | cons scene scenes ih =>
    obtain ⟨first, orderedFirst⟩ := noted_lists heard lists ordered scene
    have rest := @ih (script.override scene) _ heard first orderedFirst
    rw [List.append_assoc, ← changes_append] at rest
    exact rest

theorem notedAll_elsewhere (scenes : List Scene) (heard : script.audience = recording loggers) :
    (∀ language, language ≠ script.language →
      addedTo language (changes (script.notedAll scenes)) = []) ∧
    ∀ language, timesOpened language (changes (script.notedAll scenes)) = 0 := by
  induction scenes generalizing script with
  | nil => exact ⟨fun _ _ => rfl, fun _ => rfl⟩
  | cons scene scenes ih =>
    obtain ⟨added, opened⟩ := noted_elsewhere heard scene
    obtain ⟨addedLater, openedLater⟩ := @ih (script.override scene) heard
    simp only [notedAll, changes_append, addedTo_append, timesOpened_append]
    constructor
    · intro language other
      rw [added language other, addedLater language other, List.append_nil]
    · intro language
      rw [opened, openedLater]

end Script

theorem ScriptStore.changes_noted {store : ScriptStore} {script : Script} {loggers : Bool}
    (heard : store.audience = recording loggers)
    (writable : Numeral.isWritable script.language = true) :
    changes (store.noted script) = [.scriptAdded script.language script.size] := by
  rw [noted, if_pos writable, heard]
  rfl

/-- Everything in the store is heard by one audience. -/
structure ScriptStore.HeardBy (audience : Option Audience) (store : ScriptStore) : Prop where
  own : store.audience = audience
  scripts : ∀ language script, store.script? language = some script → script.audience = audience

namespace Mirrored
variable {before after : ScriptStore} {sent told : List Event} {script : Script}
  {loggers : Bool}

/-- What the events say of a script that is there. -/
theorem lists {language : Int} (mirrored : Mirrored before sent)
    (found : before.script? language = some script) : Lists script sent := by
  refine ⟨mirrored.distinct _, fun name => ?_⟩
  rw [mirrored.scenes, before.own language script found, ScriptStore.scene?, found]
  rfl

/-- One script changes, or is the first of its language. -/
theorem putScript (mirrored : Mirrored before sent) (lists : Lists script (sent ++ told))
    (ordered : ReplacedLater (sent ++ told))
    (elsewhere : ∀ language, language ≠ script.language → addedTo language told = [])
    (opened : ∀ language, timesOpened language told =
      if language = script.language ∧ Numeral.isWritable language ∧
        before.hasScript language = false then 1 else 0) :
    Mirrored (before.putScript script) (sent ++ told) := by
  constructor
  case distinct =>
    intro language
    by_cases same : language = script.language
    · rw [same]
      exact lists.distinct
    · rw [addedTo_append, elsewhere language same, List.append_nil]
      exact mirrored.distinct language
  case scenes =>
    intro language name
    rw [ScriptStore.scene?, ScriptStore.script?_putScript]
    by_cases same : language = script.language
    · rw [same, if_pos rfl]
      exact lists.scenes name
    · rw [addedTo_append, elsewhere language same, List.append_nil, if_neg (Ne.symm same)]
      exact mirrored.scenes language name
  case scripts =>
    intro language
    rw [timesOpened_append, mirrored.scripts, opened, ScriptStore.hasScript_putScript]
    by_cases same : language = script.language
    · cases Numeral.isWritable language <;> cases before.hasScript language <;> simp [same]
    · simp [same, Ne.symm same]
  case replaced => exact ordered

/-- A script that was there holds what the events say of it. -/
theorem amended {language : Int} {old : Script} (mirrored : Mirrored before sent)
    (found : before.script? language = some old) (same : script.language = old.language)
    (lists : Lists script (sent ++ told))
    (ordered : ReplacedLater (sent ++ told))
    (elsewhere : ∀ other, other ≠ script.language → addedTo other told = [])
    (opened : ∀ other, timesOpened other told = 0) :
    Mirrored (before.putScript script) (sent ++ told) := by
  have there : before.hasScript script.language = true := by
    rw [same, before.own language old found]
    exact Option.isSome_iff_exists.mpr ⟨old, found⟩
  refine mirrored.putScript lists ordered elsewhere fun other => ?_
  rw [opened, if_neg]
  rintro ⟨rfl, -, absent⟩
  rw [there] at absent
  cases absent

/-- A script comes in behind its scenes. -/
theorem opened (mirrored : Mirrored before sent) (heard : before.audience = recording loggers)
    (absent : before.script? script.language = none) (lists : Lists script (sent ++ told))
    (ordered : ReplacedLater (sent ++ told))
    (elsewhere : ∀ other, other ≠ script.language → addedTo other told = [])
    (silent : ∀ other, timesOpened other told = 0) :
    Mirrored (before.putScript script) (sent ++ (told ++ changes (before.noted script))) := by
  have unknown : before.hasScript script.language = false :=
    (before.hasScript_eq_false_iff script.language).mpr absent
  cases writable : Numeral.isWritable script.language with
  | false =>
    rw [ScriptStore.noted_unwritable writable, changes_nil, List.append_nil]
    refine mirrored.putScript lists ordered elsewhere fun other => ?_
    rw [silent, if_neg]
    rintro ⟨rfl, named, -⟩
    rw [writable] at named
    cases named
  | true =>
    rw [ScriptStore.changes_noted heard writable]
    apply mirrored.putScript
    case lists =>
      rw [← List.append_assoc]
      exact ⟨by simpa using lists.distinct, by simpa using lists.scenes⟩
    case ordered =>
      rw [← List.append_assoc]
      exact ordered.append_one fun _ _ _ equal => nomatch equal
    case elsewhere =>
      intro other different
      rw [addedTo_append, elsewhere other different, addedTo_scriptAdded, List.append_nil]
    case opened =>
      intro other
      rw [timesOpened_append, silent, timesOpened_scriptAdded]
      by_cases same : other = script.language
      · simp [same, unknown, writable]
      · simp [same, Ne.symm same]

/-- Reports have no part in it. -/
theorem of_changes {journal : List Entry} (mirrored : Mirrored before (changes journal)) :
    Mirrored before (events journal) := by
  obtain ⟨distinct, scenes, scripts, replaced⟩ := mirrored
  simp only [addedTo_changes, timesOpened_changes] at distinct scenes scripts
  refine ⟨distinct, scenes, scripts, fun earlier language scene lines later split => ?_⟩
  rw [← addedTo_filter]
  refine replaced _ language scene lines (later.filter Event.isChange) ?_
  rw [changes, split, List.filter_append]
  rfl

theorem new (grouping : Option Grouping) (audience : Option Audience) :
    Mirrored (.new grouping audience) [] where
  distinct _ := .nil
  scenes language name := by
    simp [ScriptStore.scene?, ScriptStore.script?, ScriptStore.new, addedTo]
  scripts language := by
    have none : (ScriptStore.new grouping audience).hasScript language = false := rfl
    rw [none, if_neg (fun named => Bool.false_ne_true named.2)]
    rfl
  replaced earlier _ _ _ _ split := by cases earlier <;> cases split

/-- Nothing has been told of a language without a script. -/
theorem bare (mirrored : Mirrored before sent)
    (absent : before.script? script.language = none) (empty : script.scenes = .empty) :
    Lists script sent := by
  have silent : addedTo script.language sent = [] := by
    refine List.eq_nil_iff_forall_not_mem.mpr fun name member => ?_
    rw [mirrored.scenes, ScriptStore.scene?, absent] at member
    cases member.2
  refine ⟨silent ▸ .nil, fun name => ?_⟩
  rw [silent, Script.hasScene, empty]
  simp [OrderedMap.contains]

end Mirrored

namespace ScriptStore
variable {before after : ScriptStore} {call : Call} {sent told : List Event} {loggers : Bool}

theorem HeardBy.putScript {audience : Option Audience} {script : Script}
    (heard : before.HeardBy audience) (same : script.audience = audience) :
    (before.putScript script).HeardBy audience := by
  refine ⟨heard.own, fun language other found => ?_⟩
  rw [script?_putScript] at found
  split at found
  next =>
    cases found
    exact same
  next => exact heard.scripts language other found

/-- One step, whatever call it is of. -/
theorem Step.heard {audience : Option Audience} (announced : call.Announced)
    (step : Step before call after told) (heard : before.HeardBy audience) :
    after.HeardBy audience := by
  cases step with
  | stays => exact heard
  | @added script absent =>
    refine heard.putScript ?_
    rw [ScriptStore.heard, announced.2, Option.none_or, heard.own]
  | @overlaid _ language old ground scenes found _ _ sameAudience _ =>
    refine heard.putScript ?_
    rw [Script.overrideAll_audience, sameAudience, heard.scripts language old found]
  | opened absent makes lets =>
    refine heard.putScript ?_
    rw [makes, Script.overrideAll_audience]
    exact heard.own
  | @altered language script name change found =>
    refine heard.putScript ?_
    rw [Script.changeScene_audience, heard.scripts language script found]
  | assigned =>
    cases known : before.grouping with
    | none => rwa [grouped, known]
    | some grouping =>
      refine ⟨?_, fun language script found => ?_⟩
      · rw [grouped, known]
        exact heard.own
      · rw [script?_grouped known] at found
        obtain ⟨old, there, rfl⟩ := Option.map_eq_some_iff.mp found
        exact heard.scripts language old there
  | regrouped => exact ⟨heard.own, heard.scripts⟩

/-- A call leaves the events in step with the store. -/
theorem Step.mirrored (announced : call.Announced) (heard : before.HeardBy (recording loggers))
    (step : Step before call after told) (mirrored : Mirrored before sent) :
    Mirrored after (sent ++ told) := by
  cases step with
  | stays => rwa [List.append_nil]
  | @added script absent =>
    have lists : Lists (before.heard script) (sent ++ []) := by
      rw [List.append_nil]
      exact mirrored.bare absent announced.1
    have ordered : ReplacedLater (sent ++ []) := by
      rw [List.append_nil]
      exact mirrored.replaced
    have unknown : before.script? (before.heard script).language = none := absent
    have opened := mirrored.opened heard.own unknown lists ordered (fun _ _ => rfl) fun _ => rfl
    rwa [List.nil_append, noted_heard] at opened
  | @overlaid _ language old ground scenes found sameScenes sameLanguage sameAudience _ =>
    have audience : ground.audience = recording loggers :=
      sameAudience.trans (heard.scripts language old found)
    -- The ground has the scenes of the old script, so the events before list it as well.
    have lists : Lists ground sent := by
      obtain ⟨distinct, held⟩ := mirrored.lists found
      refine ⟨sameLanguage ▸ distinct, fun name => ?_⟩
      rw [sameLanguage, held, Script.hasScene, Script.hasScene, sameScenes]
    have told := Script.notedAll_lists scenes audience lists mirrored.replaced
    have elsewhere := Script.notedAll_elsewhere scenes audience
    have language := Script.overrideAll_language ground scenes
    refine mirrored.amended found (language.trans sameLanguage) told.1 told.2 ?_ elsewhere.2
    rw [language]
    exact elsewhere.1
  | @opened _ source scenes made absent makes _ =>
    have audience : (Staging.freshScript source before.audience).audience = recording loggers :=
      heard.own
    -- The scenes are told of before the script, over one of which nothing was told yet.
    have fresh : Lists (Staging.freshScript source before.audience) sent :=
      mirrored.bare absent rfl
    have told := Script.notedAll_lists scenes audience fresh mirrored.replaced
    have elsewhere := Script.notedAll_elsewhere scenes audience
    have language : made.language = source.language :=
      makes ▸ Script.overrideAll_language _ scenes
    rw [← makes] at told
    rw [← language] at absent
    refine mirrored.opened heard.own absent told.1 told.2 ?_ elsewhere.2
    rw [language]
    exact elsewhere.1
  | @altered language script name change found =>
    have sameLanguage := script.changeScene_language name change
    have lists : Lists (script.changeScene name change) (sent ++ []) := by
      obtain ⟨distinct, held⟩ := mirrored.lists found
      rw [List.append_nil]
      refine ⟨sameLanguage ▸ distinct, fun other => ?_⟩
      rw [sameLanguage, held, Script.hasScene_changeScene]
    have ordered : ReplacedLater (sent ++ []) := by
      rw [List.append_nil]
      exact mirrored.replaced
    exact mirrored.amended found sameLanguage lists ordered (fun _ _ => rfl) fun _ => rfl
  | assigned =>
    rw [List.append_nil]
    refine ⟨mirrored.distinct, fun language name => ?_, fun language => ?_, mirrored.replaced⟩
    · rw [scene?_grouped]
      exact mirrored.scenes language name
    · rw [hasScript_grouped]
      exact mirrored.scripts language
  | regrouped =>
    rw [List.append_nil]
    exact ⟨mirrored.distinct, mirrored.scenes, mirrored.scripts, mirrored.replaced⟩

end ScriptStore

namespace Desk
variable {desk : Desk} {sent : List Event} {loggers : Bool} {calls : List Call}

theorem run_mirrored (announced : ∀ call ∈ calls, call.Announced)
    (heard : desk.store.HeardBy (recording loggers)) (mirrored : Mirrored desk.store sent) :
    Mirrored (desk.run calls).store (sent ++ changes (desk.told calls)) := by
  induction calls generalizing desk sent with
  | nil =>
    rw [told, changes_nil, List.append_nil]
    exact mirrored
  | cons call calls ih =>
    have step := call.perform_takes desk
    have first := announced call (by simp)
    have rest := ih (fun other member => announced other (by simp [member]))
      (step.heard first heard) (step.mirrored first heard mirrored)
    rw [List.append_assoc, ← changes_append] at rest
    exact rest

/-- Whoever listens to a new store can tell at any time which scripts and scenes it has in the
languages that can be named, by all ways in which these come in and whatever calls fail. The scenes
that were added to a language are distinct, and those of its script; each script was announced
once, and no other; and a scene is replaced only after it was added. -/
theorem events_mirror_the_store (grouping : Option Grouping) (loggers : Bool)
    {calls : List Call} (announced : ∀ call ∈ calls, call.Announced) :
    let start : Desk := ⟨.new grouping (recording loggers), []⟩
    Mirrored (start.run calls).store (events (start.told calls)) := by
  intro start
  have heard : start.store.HeardBy (recording loggers) :=
    ⟨rfl, fun language script found => nomatch found⟩
  exact (run_mirrored announced heard (.new grouping (recording loggers))).of_changes

/-- A script whose language cannot be named is there all the same. -/
theorem unwritable_language_is_not_announced :
    let source : ScriptSource := { language := Nat.pow 10 Numeral.decimalLimit }
    let calls : List Call := [.stage none {} {} source false]
    let start : Desk := ⟨.new none (recording false), []⟩
    (∀ call ∈ calls, call.Announced) ∧
      (start.run calls).store.hasScript source.language = true ∧
      timesOpened source.language (events (start.told calls)) = 0 := by
  intro source calls start
  have huge : Numeral.isWritable source.language = false := Numeral.isWritable_bound
  have spoken : 0 ≤ source.language := Int.natCast_nonneg _
  obtain ⟨-, there, silent⟩ := stage_empty_unwritable none false huge rfl spoken
    (show start.store.script? source.language = none from rfl)
  rw [← timesOpened_changes]
  simp only [calls, run, told, List.foldl_cons, List.foldl_nil, List.append_nil, Call.perform,
    Edit.run_discard]
  exact ⟨by simp [Call.Announced], there, by rw [silent]; rfl⟩

theorem refused_and_replaced_scenes_are_mirrored :
    let timing : Timing := { cutscenes := .ofList [("b", []), ("a", [⟨5, false, "", true⟩])] }
    let calls : List Call := [
      .onScript 0 (.add { name := "a" }), .addScript { language := 0 },
      .onScript 0 (.add { name := "a" }), .onScript 0 (.add { name := "a" }),
      .stage none {} timing { language := 0 } false, .stage none {} timing { language := 0 } true,
      .stage none {} timing { language := 1 } false]
    let start : Desk := ⟨.new none (recording false), []⟩
    let sent := events (start.told calls)
    Mirrored (start.run calls).store sent ∧
      addedTo 0 sent = ["a", "b"] ∧ addedTo 1 sent = ["b", "a"] ∧ addedTo 2 sent = [] ∧
      sent.contains (.sceneReplaced 0 "a" 1) ∧ timesOpened 1 sent = 1 ∧ timesOpened 2 sent = 0 := by
  intro timing calls start sent
  have announced : ∀ call ∈ calls, call.Announced := by
    simp [calls, Call.Announced]
  have mirrored := events_mirror_the_store none false announced
  exact ⟨mirrored, by decide +kernel, by decide +kernel, by decide +kernel, by decide +kernel,
    by decide +kernel, by decide +kernel⟩

end Desk

end Libretto
