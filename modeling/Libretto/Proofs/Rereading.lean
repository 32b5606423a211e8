import Libretto.Proofs.RoundTrips
import Mathlib.Data.List.Forall2

/-! From documents to a script and round once more. All speakers have come from keys then, so
only one whose last key is the empty one is in doubt; and what has no text is a clear entry. -/
namespace Libretto

variable {speakers : OrderedMap String String}

namespace Staging

/-- Everyone who speaks goes by the display name of a key. -/
def Displayed (speakers : OrderedMap String String) (lines : List Line) : Prop :=
  ∀ line ∈ lines, ∃ key, line.speaker = displayName speakers key

theorem timed?_displayed {cues : List Cue} {texts : List String} {lines : List Line}
    (timed : timed? speakers cues texts = some lines) : Displayed speakers lines := by
  induction cues generalizing texts lines with
  | nil =>
    cases timed
    intro line member
    cases member
  | cons cue cues ih =>
    simp only [timed?] at timed
    split at timed
    · obtain ⟨rest, tail, rfl⟩ := Option.map_eq_some_iff.mp timed
      exact List.forall_mem_cons.mpr ⟨⟨"", rfl⟩, ih tail⟩
    · cases texts with
      | nil => cases timed
      | cons text texts =>
        obtain ⟨rest, tail, rfl⟩ := Option.map_eq_some_iff.mp timed
        exact List.forall_mem_cons.mpr ⟨⟨cue.speaker, rfl⟩, ih tail⟩

theorem scenesOf_displayed {dialogue : Dialogue} {timing : Timing} {language : Int}
    {scenes : List Scene} (done : scenesOf dialogue timing language = .ok scenes) :
    ∀ scene ∈ scenes, Displayed dialogue.speakers scene.lines := by
  obtain ⟨cutscenes, hints, first, second, rfl⟩ := scenesOf_ok done
  intro scene member line there
  rcases List.mem_append.mp member with inFirst | inSecond
  · obtain ⟨entry, -, made⟩ := mapM_ok_origin first scene inFirst
    obtain ⟨lines, timed, rfl⟩ := filled_ok made
    exact timed?_displayed timed line ((mem_addAll rfl lines line).mp there)
  · obtain ⟨entry, -, made⟩ := mapM_ok_origin second scene inSecond
    obtain ⟨-, id, lines, -, timed, rfl⟩ := hintOf_ok made
    exact timed?_displayed timed line ((mem_addAll rfl lines line).mp there)

/-- The last key of a name is the empty one, which stands for nobody. -/
def Silenced (speakers : OrderedMap String String) (speaker : String) : Prop :=
  speaker ≠ "" ∧ (keysNamed speakers speaker).getLast? = some ""

theorem reread_displayed {speaker key : String} (shown : speaker = displayName speakers key)
    (heard : ¬ Silenced speakers speaker) : reread speakers speaker = speaker := by
  by_cases nobody : speaker = ""
  · rw [nobody, reread_nobody]
  apply (reread_eq_iff nobody).mpr
  cases last : (keysNamed speakers speaker).getLast? with
  | some own =>
    refine .inl ⟨own, last, ?_⟩
    rintro rfl
    exact heard ⟨nobody, last⟩
  | none =>
    have unnamed : speaker ∉ speakers.values :=
      (keysNamed_eq_nil_iff speaker).mp (List.getLast?_eq_none_iff.mp last)
    refine .inr ⟨unnamed, ?_⟩
    -- A key that is known would have shown its name, so the speaker is a key without one.
    unfold displayName at shown
    split at shown
    · exact absurd shown nobody
    · cases found : speakers.find? key with
      | some name =>
        rw [found] at shown
        obtain rfl : speaker = name := shown
        exact absurd (List.mem_map_of_mem ((speakers.find?_eq_some_iff _ _).mp found)) unnamed
      | none =>
        rw [found] at shown
        obtain rfl : speaker = key := shown
        exact (speakers.find?_eq_none_iff speaker).mp found

end Staging

/-- What is left of a line that has been written and read once more. Of a speaker whose last key
is the empty one nothing is said. -/
structure Line.Resembles (speakers : OrderedMap String String) (old new : Line) : Prop where
  frame : new.frame = old.frame
  text : new.text = old.text
  clear : old.text = "" → new = .clear old.frame
  offscreen : old.text ≠ "" → new.offscreen = old.offscreen
  speaker : old.text ≠ "" → ¬ Staging.Silenced speakers old.speaker → new.speaker = old.speaker

structure Scene.Resembles (speakers : OrderedMap String String) (old new : Scene) : Prop where
  name : new.name = old.name
  kind : new.kind = old.kind
  id : new.id = old.id
  lines : List.Forall₂ (Line.Resembles speakers) old.lines new.lines

theorem Line.reread_resembles {line : Line} {key : String}
    (shown : line.speaker = Staging.displayName speakers key) :
    line.Resembles speakers (line.reread speakers) := by
  constructor
  case frame => exact reread_frame line
  case text => exact reread_text line
  case clear => exact reread_clear
  case offscreen =>
    intro said
    rw [reread_said said]
  case speaker =>
    intro said heard
    rw [reread_said said]
    exact Staging.reread_displayed shown heard

theorem Scene.restored_resembles {scene : Scene} {name : String} (proper : scene.Proper)
    (named : scene.name = name) (displayed : Staging.Displayed speakers scene.lines) :
    scene.Resembles speakers (scene.restored speakers name) := by
  rw [restored_proper proper]
  refine ⟨named.symm, rfl, rfl, ?_⟩
  apply List.forall₂_map_right_iff.mpr
  apply List.forall₂_same.mpr
  intro line member
  obtain ⟨key, shown⟩ := displayed line member
  exact Line.reread_resembles shown

namespace Desk
variable {dialogue : Dialogue} {timing : Timing} {source : ScriptSource} {replace : Bool}
  {blank : Desk} {script : Script}

/-- What has been read into an empty store holds the scenes that were built. -/
theorem stage_blank_ok {audience : Option Audience} (bare : blank.store.scripts = .empty)
    (read : (stage audience dialogue timing source replace blank).result = .ok script) :
    ∃ scenes, built dialogue timing source = .ok scenes ∧
      Numeral.isWritable source.language = true ∧
      ∀ name, script.scenes.find? name = scenes.find? (·.name = name) := by
  rw [stage_result, admitted_blank bare] at read
  cases scenesAt : built dialogue timing source with
  | error fault =>
    rw [scenesAt] at read
    cases read
  | ok scenes =>
    rw [scenesAt] at read
    simp only [Except.bind] at read
    obtain ⟨writable, made⟩ := written_eq_ok read
    have distinct := Staging.scenesOf_distinct (built_ok scenesAt).2.2
    exact ⟨scenes, rfl, writable, made ▸ Staging.freshScript_scenes distinct blank.store.audience⟩

/-- Scenes that have been read look the same when they have been written and read again: they
have their names, kinds and ids, and each line has its frame and its text. A line without text is
a clear entry then; the others keep all else, but for a speaker whose last key is the empty
one. -/
theorem rereading_resembles {audience : Option Audience}
    (bare : blank.store.scripts = .empty)
    (read : (stage audience dialogue timing source replace blank).result = .ok script)
    {again : ScriptSource} (json : again.format = .json) (same : again.language = source.language)
    {empty : Desk} (nothing : empty.store.scripts = .empty) (anyway : Bool)
    (listeners others : Option Audience) :
    ∃ transcript : Transcript,
      (∀ σ : Type, (script.compose listeners dialogue.speakers : Edit σ Transcript).Yields
        (.ok transcript)) ∧
      ∃ made, (stage others transcript.dialogue transcript.timing again anyway empty).result =
          .ok made ∧
        ∀ name, Option.Rel (Scene.Resembles dialogue.speakers) (script.scenes.find? name)
          (made.scenes.find? name) := by
  obtain ⟨scenes, scenesAt, writable, held⟩ := stage_blank_ok bare read
  obtain ⟨-, language, scenesOf⟩ := built_ok scenesAt
  have origin : ∀ name scene, script.scenes.find? name = some scene →
      scene ∈ scenes ∧ scene.name = name := by
    intro name scene found
    rw [held name] at found
    have called := List.find?_some found
    rw [decide_eq_true_eq] at called
    exact ⟨List.mem_of_find?_eq_some found, called⟩
  have proper : ∀ name scene, script.scenes.find? name = some scene → scene.Proper :=
    fun name scene found => (Staging.scenesOf_proper scenesOf scene (origin name scene found).1).1
  obtain ⟨transcript, composed, made, result, -, restored⟩ := Script.stage_written proper json
    (same ▸ language) (same ▸ writable) nothing dialogue.speakers listeners others anyway
  refine ⟨transcript, composed, made, result, ?_⟩
  intro name
  rw [restored name]
  cases found : script.scenes.find? name with
  | none => exact .none
  | some scene =>
    obtain ⟨member, named⟩ := origin name scene found
    have displayed := Staging.scenesOf_displayed scenesOf scene member
    exact .some (Scene.restored_resembles (proper name scene found) named displayed)

theorem rereading_keeps_a_line :
    let dialogue : Dialogue :=
      { speakers := .ofList [("jak", "Jak")], cutscenes := .ofList [("a", ["Hi"])] }
    let timing : Timing := { cutscenes := .ofList [("a", [⟨5, true, "jak", false⟩])] }
    let blank : Desk := ⟨.new none none, []⟩
    let said : Scene := { name := "a", lines := [⟨5, "Hi", "Jak", true⟩] }
    ∃ script transcript made, script.scenes.find? "a" = some said ∧
      (stage none dialogue timing { language := 0 } false blank).result = .ok script ∧
      (script.compose none dialogue.speakers : Edit Unit Transcript).Yields (.ok transcript) ∧
      (stage none transcript.dialogue transcript.timing { language := 0 } false blank).result =
        .ok made ∧
      ∃ scene, made.scenes.find? "a" = some scene ∧ said.Resembles dialogue.speakers scene := by
  intro dialogue timing blank said
  have bare : blank.store.scripts = .empty := rfl
  have content : ((stage none dialogue timing { language := 0 } false blank).result.toOption.bind
      (·.scenes.find? "a")) = some said := by decide +kernel
  cases read : (stage none dialogue timing { language := 0 } false blank).result with
  | error fault =>
    rw [read] at content
    cases content
  | ok script =>
    rw [read] at content
    have held : script.scenes.find? "a" = some said := content
    have json : ({ language := 0 } : ScriptSource).format = .json := rfl
    obtain ⟨transcript, composed, made, result, resembles⟩ :=
      rereading_resembles bare read json rfl bare false none none
    have related := resembles "a"
    rw [held] at related
    cases kept : made.scenes.find? "a" with
    | none =>
      rw [kept] at related
      cases related
    | some scene =>
      rw [kept] at related
      cases related with
      | some alike =>
        exact ⟨script, transcript, made, held, rfl, composed Unit, result, scene, kept, alike⟩

/-- A line without text that someone speaks comes back as a clear entry that nobody does, and
someone whose last key is the empty one comes back as nobody. -/
theorem rereading_loses_speakers :
    let dialogue : Dialogue :=
      { speakers := .ofList [("jak", "Jak"), ("", "Jak")],
        cutscenes := .ofList [("a", [""]), ("b", ["Hi"])] }
    let cues : List Cue := [⟨0, false, "jak", false⟩]
    let timing : Timing := { cutscenes := .ofList [("a", cues), ("b", cues)] }
    let blank : Desk := ⟨.new none none, []⟩
    let first := (stage none dialogue timing { language := 0 } false blank).result.toOption
    let second := do
      let script ← first
      let written : Outcome Unit Transcript := script.compose none dialogue.speakers ()
      let transcript ← written.result.toOption
      (stage none transcript.dialogue transcript.timing { language := 0 } false blank).result.toOption
    first.map (·.scenes.values.map Scene.lines) =
        some [[⟨0, "", "Jak", false⟩], [⟨0, "Hi", "Jak", false⟩]] ∧
      second.map (·.scenes.values.map Scene.lines) =
        some [[.clear 0], [⟨0, "Hi", "", false⟩]] := by
  decide +kernel

end Desk

end Libretto
