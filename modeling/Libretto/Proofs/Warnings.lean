import Libretto.Proofs.DocumentedScenes

/-! What a load of subtitles warns of. Every warning has its cause in the two documents: a scene
that is in one of them only, texts that no cue takes, or a speaker without a display name. Storing
the scenes gives no cause to warn. -/
namespace Libretto

/-- The warning that an entry of a journal is, be it in the log or sent to an audience. -/
def Entry.warning? : Entry → Option Notice
  | .log notice | .event (.report notice) => if notice.level = .warning then some notice else none
  | .event _ => none

def warnings (journal : List Entry) : List Notice := journal.filterMap Entry.warning?

theorem warnings_append (first later : List Entry) :
    warnings (first ++ later) = warnings first ++ warnings later := List.filterMap_append

theorem mem_warnings_reportTo {audience : Option Audience} {notice told : Notice}
    (member : told ∈ warnings (reportTo audience notice)) :
    told = notice ∧ notice.level = .warning := by
  obtain ⟨entry, there, shown⟩ := List.mem_filterMap.mp member
  have own : entry = .log notice ∨ entry = .event (.report notice) := by
    rcases audience with _ | ⟨recorder, loggers⟩
    · exact .inl (List.mem_singleton.mp there)
    · cases recorder <;> cases loggers <;> simp [reportTo, announce] at there
      · exact .inl there
      · exact .inr there
      · exact there.symm
  have shows : (if notice.level = .warning then some notice else none) = some told := by
    rcases own with rfl | rfl <;> exact shown
  split at shows
  next warning => exact ⟨(Option.some.inj shows).symm, warning⟩
  next => cases shows

namespace Edit
variable {σ τ α β γ : Type} {cause other : Notice → Prop}

/-- Every warning that an edit gives has a cause, whatever state it starts from. -/
def WarnsOf (cause : Notice → Prop) (edit : Edit σ α) : Prop :=
  ∀ state, ∀ notice ∈ warnings (edit state).journal, cause notice

namespace WarnsOf

theorem mono {edit : Edit σ α} (warns : edit.WarnsOf cause)
    (weaker : ∀ notice, cause notice → other notice) : edit.WarnsOf other :=
  fun state notice told => weaker notice (warns state notice told)

/-- Without an entry in the journal there is no warning. -/
theorem silent {edit : Edit σ α} (silent : ∀ state, (edit state).journal = []) :
    edit.WarnsOf cause := by
  intro state notice told
  rw [silent state] at told
  cases told

theorem pure (value : α) : (Pure.pure value : Edit σ α).WarnsOf cause := silent fun _ => rfl

theorem fail (fault : Fault) : (Edit.fail fault : Edit σ α).WarnsOf cause := silent fun _ => rfl

theorem get : (Edit.get : Edit σ σ).WarnsOf cause := silent fun _ => rfl

theorem set (state : σ) : (Edit.set state).WarnsOf cause := silent fun _ => rfl

theorem modify (f : σ → σ) : (Edit.modify f).WarnsOf cause := silent fun _ => rfl

theorem ofExcept (value : Except Fault α) : (Edit.ofExcept value : Edit σ α).WarnsOf cause := by
  cases value <;> exact silent fun _ => rfl

theorem nameable (value : Int) : (Edit.nameable value : Edit σ Unit).WarnsOf cause := by
  unfold Edit.nameable
  split <;> exact silent fun _ => rfl

theorem log {notice : Notice} (mild : notice.level ≠ .warning) :
    (Edit.log notice : Edit σ Unit).WarnsOf cause := by
  intro state told member
  simp [Edit.log, warnings, Entry.warning?, mild] at member

theorem report (audience : Option Audience) {notice : Notice}
    (caused : notice.level = .warning → cause notice) :
    (Edit.report audience notice : Edit σ Unit).WarnsOf cause := by
  intro state told member
  obtain ⟨rfl, warning⟩ := mem_warnings_reportTo member
  exact caused warning

/-- An event that reports nothing is no warning. -/
theorem send (audience : Option Audience) {event : Event} (change : event.isChange = true) :
    (Edit.send audience event : Edit σ Unit).WarnsOf cause := by
  intro state told member
  obtain ⟨entry, there, shown⟩ := List.mem_filterMap.mp member
  change entry ∈ announce audience event at there
  have own : entry = .event event := by
    rcases audience with _ | ⟨recorder, loggers⟩
    · cases there
    · cases recorder with
      | false => cases there
      | true => exact List.mem_singleton.mp there
  subst own
  cases event with
  | report notice => cases change
  | _ => cases shown

theorem bind {first : Edit σ α} {next : α → Edit σ β} (head : first.WarnsOf cause)
    (tail : ∀ value, (next value).WarnsOf cause) : (first >>= next).WarnsOf cause := by
  intro state
  rw [run_bind]
  cases result : (first state).result with
  | error fault => exact head state
  | ok value =>
    intro notice told
    rw [warnings_append] at told
    rcases List.mem_append.mp told with early | late
    · exact head state notice early
    · exact tail value _ notice late

theorem mapM {step : γ → Edit σ α} {items : List γ}
    (each : ∀ item ∈ items, (step item).WarnsOf cause) : (items.mapM step).WarnsOf cause := by
  induction items with
  | nil => exact .pure []
  | cons item items ih =>
    rw [List.mapM_cons]
    refine .bind (each item (by simp)) fun value => .bind (ih ?_) fun values => .pure _
    exact fun other member => each other (by simp [member])

theorem forM {step : γ → Edit σ Unit} {items : List γ}
    (each : ∀ item ∈ items, (step item).WarnsOf cause) : (items.forM step).WarnsOf cause := by
  induction items with
  | nil => exact .pure ()
  | cons item items ih =>
    exact .bind (each item (by simp)) fun _ =>
      ih fun other member => each other (by simp [member])

/-- What a change is told in, behind it. -/
theorem told (value : Int) {notice : Notice} {event : Event} (audience : Option Audience)
    (result : α) (mild : notice.level ≠ .warning) (change : event.isChange = true) :
    (do
      Edit.nameable value
      Edit.log notice
      Edit.send audience event
      return result : Edit σ α).WarnsOf cause :=
  .bind (.nameable value) fun _ => .bind (.log mild) fun _ =>
    .bind (.send audience change) fun _ => .pure result

theorem discard {edit : Edit σ α} (warns : edit.WarnsOf cause) :
    (discard edit : Edit σ PUnit).WarnsOf cause := by
  intro state
  rw [run_discard]
  exact warns state

theorem within {part : σ → τ} {replace : τ → σ → σ} {edit : Edit τ α}
    (warns : edit.WarnsOf cause) : (Edit.within part replace edit).WarnsOf cause :=
  fun state => warns (part state)

theorem apart {edit : Edit τ α} (warns : edit.WarnsOf cause) (start : τ) :
    (Edit.apart edit start : Edit σ τ).WarnsOf cause := fun _ => warns start

end WarnsOf

end Edit

namespace Script
variable {cause : Notice → Prop}

theorem addScene_warns (scene : Scene) : (addScene scene).WarnsOf cause := by
  refine .bind .get fun script => ?_
  split
  · exact .fail _
  · exact .bind (.set _) fun _ => .told script.language _ _ nofun rfl

theorem updateScene_warns (scene : Scene) : (updateScene scene).WarnsOf cause := by
  refine .bind .get fun script => ?_
  split
  · exact .bind (addScene_warns scene) fun _ => .pure _
  · exact .bind (.set _) fun _ => .told script.language _ _ nofun rfl

end Script

theorem ScriptStore.addScript_warns {cause : Notice → Prop} (script : Script) :
    (addScript script).WarnsOf cause := by
  refine .bind .get fun store => ?_
  split
  · exact .fail _
  · exact .bind (.set _) fun _ => .told script.language _ _ nofun rfl

namespace Staging
variable {cause : Notice → Prop}

/-- Scenes are stored without a warning. -/
theorem store_warns (source : ScriptSource) (replace : Bool) (scenes : List Scene) :
    (store source replace scenes).WarnsOf cause := by
  refine .bind .get fun before => ?_
  split
  · refine .bind (.apart ?_ _) ScriptStore.addScript_warns
    exact .forM fun scene _ => .discard (Script.addScene_warns scene)
  · split
    · refine .within (.bind (.modify _) fun _ => .bind ?_ fun _ => .get)
      exact .forM fun scene _ => .discard (Script.updateScene_warns scene)
    · split
      · exact .fail _
      · refine .within (.bind ?_ fun _ => .get)
        exact .forM fun scene _ => .discard (Script.addScene_warns scene)

/-- What the cues and the texts of one scene give cause to warn of. -/
inductive SceneCause (speakers : OrderedMap String String) (part : Part) (name : String)
    (cues : List Cue) (texts : List String) : Notice → Prop
  | untimed (more : takers cues < texts.length) :
      SceneCause speakers part name cues texts
        (.untimedTexts part name (texts.length - takers cues))
  | speaker {cue : Cue} (member : cue ∈ cues) (taking : cue.clear = false)
      (someone : cue.speaker ≠ "") (unknown : speakers.find? cue.speaker = none) :
      SceneCause speakers part name cues texts (.unknownSpeaker cue.speaker)

/-- What two documents give cause to warn of. -/
inductive Cause (dialogue : Dialogue) (timing : Timing) : Notice → Prop
  | cutsceneUntimed {name : String} (told : name ∈ dialogue.cutscenes.keys)
      (untimed : name ∉ timing.cutscenes.keys) :
      Cause dialogue timing (.untimedScene .cutscene name)
  | hintUntimed {name : String} (told : name ∈ dialogue.hints.keys)
      (untimed : name ∉ timing.hints.keys) : Cause dialogue timing (.untimedScene .hint name)
  | cutscene {name : String} {cues : List Cue} {notice : Notice}
      (timed : (name, cues) ∈ timing.cutscenes.entries)
      (cause : SceneCause dialogue.speakers .cutscene name cues
        ((dialogue.cutscenes.find? name).getD []) notice) : Cause dialogue timing notice
  | hint {name : String} {hint : HintTiming} {notice : Notice}
      (timed : (name, hint) ∈ timing.hints.entries)
      (cause : SceneCause dialogue.speakers .hint name (hint.cues.map HintCue.toCue)
        ((dialogue.hints.find? name).getD []) notice) : Cause dialogue timing notice

variable {audience : Option Audience} {speakers : OrderedMap String String}

theorem speakerName_warns (key : String) : (speakerName audience speakers key).WarnsOf
    fun notice => notice = .unknownSpeaker key ∧ key ≠ "" ∧ speakers.find? key = none := by
  unfold speakerName
  split
  · exact .pure _
  next someone =>
    split
    · exact .pure _
    next unknown =>
      refine .bind .get fun reported => ?_
      have caused : Notice.unknownSpeaker key = .unknownSpeaker key ∧ key ≠ "" ∧
          speakers.find? key = none := ⟨rfl, by simpa using someone, unknown⟩
      split
      · exact .bind (.set _) fun _ => .bind (.report _ fun _ => caused) fun _ => .pure _
      · exact .pure _

/-- Induction on the cues: each that takes a text takes one off the rest. -/
theorem fill_warns (part : Part) (total : Nat) (cues : List Cue) (texts : List String)
    (scene : Scene) : (fill audience speakers part total cues texts scene).WarnsOf
      (SceneCause speakers part scene.name cues texts) := by
  induction cues generalizing texts scene with
  | nil =>
    simp only [fill]
    split
    next more => exact .bind (.report _ fun _ => .untimed more) fun _ => .pure _
    · exact .pure _
  | cons cue cues ih =>
    cases kind : cue.clear with
    | true =>
      simp only [fill, kind, if_true]
      have same : takers (cue :: cues) = takers cues := by simp [takers, kind]
      refine (ih texts (scene.add (.clear cue.frame))).mono fun notice caused => ?_
      cases caused with
      | untimed more => exact same ▸ .untimed (same ▸ more)
      | speaker member taking someone unknown =>
        exact .speaker (List.mem_cons_of_mem _ member) taking someone unknown
    | false =>
      cases texts with
      | nil =>
        simp only [fill, kind, Bool.false_eq_true, if_false]
        exact .fail _
      | cons text texts =>
        simp only [fill, kind, Bool.false_eq_true, if_false]
        have one : takers (cue :: cues) = takers cues + 1 := by simp [takers, kind]
        refine .bind ((speakerName_warns cue.speaker).mono ?_) fun speaker =>
          (ih texts (scene.add _)).mono ?_
        · rintro _ ⟨rfl, someone, unknown⟩
          exact .speaker List.mem_cons_self kind someone unknown
        · intro notice caused
          cases caused with
          | untimed more =>
            have left : (text :: texts).length - takers (cue :: cues) =
                texts.length - takers cues := by rw [one, List.length_cons, Nat.add_sub_add_right]
            have still : takers (cue :: cues) < (text :: texts).length := by
              rw [one]
              exact Nat.succ_lt_succ more
            exact left ▸ .untimed still
          | speaker member taking someone unknown =>
            exact .speaker (List.mem_cons_of_mem _ member) taking someone unknown

theorem reportUntimed_warns (part : Part) (texts timed : List String) :
    (reportUntimed audience part texts timed : Edit σ Unit).WarnsOf
      fun notice => ∃ name ∈ texts, name ∉ timed ∧ notice = .untimedScene part name := by
  refine .forM fun name member => .report _ fun _ => ?_
  obtain ⟨told, untimed⟩ := List.mem_filter.mp ((mem_arrange _ _ _).mp member)
  exact ⟨name, told, of_decide_eq_true untimed, rfl⟩

theorem scenes_warns (dialogue : Dialogue) (timing : Timing) (language : Int) :
    (scenes audience dialogue timing language).WarnsOf (Cause dialogue timing) := by
  refine .bind (.mapM fun (name, cues) timed => ?_) fun _ =>
    .bind (.mapM fun (name, hint) timed => ?_) fun _ => .pure _
  · exact (fill_warns _ _ _ _ _).mono fun notice => .cutscene timed
  · dsimp only
    split
    · exact .fail _
    · refine .bind (.ofExcept _) fun id => ?_
      exact (fill_warns _ _ _ _ _).mono fun notice => .hint timed

end Staging

theorem Desk.concluded_warns {cause : Notice → Prop} (audience : Option Audience)
    (source : ScriptSource) (replace : Bool) (scenes : List Scene) :
    (concluded audience source replace scenes).WarnsOf cause :=
  .bind (.within (Staging.store_warns source replace scenes)) fun _ => .bind (.nameable _) fun _ =>
    .bind (.report _ nofun) fun _ => .pure _

/-- No warning is given without a cause in the documents. -/
theorem Desk.stage_warns (audience : Option Audience) (dialogue : Dialogue) (timing : Timing)
    (source : ScriptSource) (replace : Bool) :
    (stage audience dialogue timing source replace).WarnsOf (Staging.Cause dialogue timing) := by
  rw [stage_eq]
  refine .bind ?_ fun scenes => concluded_warns audience source replace scenes
  refine .bind (.ofExcept _) fun _ => .bind ?_ fun _ => .bind ?_ fun _ =>
    .within (Staging.scenes_warns dialogue timing _)
  · refine (Staging.reportUntimed_warns _ _ _).mono ?_
    rintro _ ⟨name, told, untimed, rfl⟩
    exact .cutsceneUntimed told untimed
  · refine (Staging.reportUntimed_warns _ _ _).mono ?_
    rintro _ ⟨name, told, untimed, rfl⟩
    exact .hintUntimed told untimed

end Libretto
