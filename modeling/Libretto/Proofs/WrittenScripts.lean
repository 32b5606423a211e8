import Libretto.Proofs.DocumentForms
import Libretto.Proofs.Restoration
import Libretto.Proofs.Warnings

/-! Documents that a script was written as are read without a warning. They list the same scenes,
every scene has as many texts as cues that take one, and every speaker that the cues name is
credited. So nothing that is shown of a script is lost on the way, even where a line does not come
back as it was. -/
namespace Libretto

namespace Line

theorem cue_clear (keys : OrderedMap String String) (line : Line) :
    (line.cue keys).clear = line.isClear := by
  unfold cue
  split
  next clear => exact clear.symm
  next said => exact (Bool.eq_false_iff.mpr said).symm

/-- A line is written as it is read back: a clear entry has its frame only. -/
theorem cue_plain (keys : OrderedMap String String) (line : Line) :
    (line.cue keys).plain = line.cue keys := by
  rw [Cue.plain, cue_clear]
  split
  next clear => rw [cue, if_pos clear]
  · rfl

theorem hintCue_plain (keys : OrderedMap String String) (line : Line) :
    (line.hintCue keys).plain = line.hintCue keys := by
  unfold hintCue HintCue.plain
  cases line.isClear <;> rfl

end Line

namespace Staging
variable {dialogue : Dialogue} {timing : Timing} {speakers : OrderedMap String String}

theorem takers_written (keys : OrderedMap String String) (lines : List Line) :
    takers (lines.map (Line.cue keys)) = (lines.filter fun line => !line.isClear).length := by
  rw [takers, List.countP_map, List.countP_eq_length_filter]
  congr 2
  funext line
  simp [Line.cue_clear]

/-- The speakers of a document count for what they display. -/
theorem timed?_congr {others : OrderedMap String String}
    (same : displayName others = displayName speakers) (cues : List Cue) (texts : List String) :
    timed? others cues texts = timed? speakers cues texts := by
  rw [timed?_eq, timed?_eq, linesOf, linesOf]
  unfold lineOf
  rw [same]

theorem scenesOf_congr (same : displayName speakers = displayName dialogue.speakers)
    (language : Int) :
    scenesOf { dialogue with speakers } timing language = scenesOf dialogue timing language := by
  unfold scenesOf cutsceneOf hintOf filled
  simp only [timed?_congr same]

theorem displayName_sorted (speakers : OrderedMap String String) :
    displayName (.ofList (speakers.sorted byName)) = displayName speakers := by
  funext key
  simp only [displayName, OrderedMap.find?_ofList_sorted]

/-- Lines that were taken apart into cues and texts give no cause to warn, if the speakers that
the cues name are known. -/
theorem written_causes_nothing (keys : OrderedMap String String) {lines : List Line}
    (known : ∀ line ∈ lines, line.isClear = false → speakerKey keys line.speaker = "" ∨
      speakers.contains (speakerKey keys line.speaker))
    (part : Part) (name : String) (notice : Notice) :
    ¬ SceneCause speakers part name (lines.map (Line.cue keys))
      ((lines.filter fun line => !line.isClear).map Line.text) notice := by
  intro cause
  cases cause with
  | untimed more =>
    rw [takers_written, List.length_map] at more
    exact Nat.lt_irrefl _ more
  | speaker member taking someone unknown =>
    obtain ⟨line, there, rfl⟩ := List.mem_map.mp member
    have said : line.isClear = false := (Line.cue_clear keys line).symm.trans taking
    have key : (line.cue keys).speaker = speakerKey keys line.speaker := by simp [Line.cue, said]
    rw [key] at someone unknown
    rcases known line there said with nobody | listed
    · exact someone nobody
    · rw [OrderedMap.contains, unknown] at listed
      cases listed

end Staging

namespace Script
variable {script : Script} (speakers : OrderedMap String String)

/-- Whoever a cue names is among the speakers, or is nobody. -/
theorem transcript_knows {name : String} {scene : Scene}
    (found : script.scenes.find? name = some scene) (valid : scene.kind ≠ .invalid) {line : Line}
    (member : line ∈ scene.lines) (said : line.isClear = false) :
    speakerKey (speakerKeys speakers) line.speaker = "" ∨
      (script.transcript speakers).dialogue.speakers.contains
        (speakerKey (speakerKeys speakers) line.speaker) := by
  unfold speakerKey
  split
  · exact .inl rfl
  next someone =>
    right
    cases last : (speakerKeys speakers).find? line.speaker with
    | some key =>
      have shown : speakers.find? key = some line.speaker := by
        rw [speakerKeys_find?] at last
        exact (mem_keysNamed key line.speaker).mp (List.mem_of_getLast? last)
      obtain ⟨added, entries⟩ := script.transcript_extends speakers
      exact contains_of_extends entries (by rw [Option.getD_some, OrderedMap.contains, shown]; rfl)
    | none =>
      have needs : needsCredit (speakerKeys speakers) line = true := by
        simp [needsCredit, said, someone, OrderedMap.contains, last]
      have written : line ∈ Transcript.linesOf script.inOrder := by
        refine List.mem_flatMap.mpr ⟨(name, scene), List.mem_filter.mpr ⟨?_, ?_⟩, member⟩
        · exact (script.mem_inOrder name scene).mpr found
        · exact decide_eq_true valid
      rw [transcript_credits]
      exact credited_knows _ written needs speakers

theorem inNameOrder_inOrder (script : Script) : InNameOrder script.inOrder :=
  inNameOrder_sorted script.scenes

/-- The documents of a script are in the order of their names already, the speakers apart. -/
theorem transcript_inOrder (script : Script) (speakers : OrderedMap String String) :
    let transcript := script.transcript speakers
    transcript.dialogue.inOrder =
      { transcript.dialogue with speakers := .ofList (transcript.dialogue.speakers.sorted byName) } ∧
    transcript.timing.inOrder = transcript.timing := by
  intro transcript
  have movies : InNameOrder (Transcript.movies script.inOrder) :=
    (inNameOrder_inOrder script).sublist List.filter_sublist
  have hints : InNameOrder (Transcript.hints script.inOrder) :=
    (inNameOrder_inOrder script).sublist List.filter_sublist
  obtain ⟨dialogueMovies, dialogueHints⟩ := script.transcript_dialogue speakers
  obtain ⟨timingMovies, timingHints⟩ := script.transcript_timing speakers
  have texts {m : OrderedMap String (List String)} (ordered : InNameOrder m.entries) :
      OrderedMap.ofList (m.sorted byName) = m := by
    have same := @ofList_sorted _ m ordered id fun _ _ => rfl
    rwa [Prod.map_id, List.map_id] at same
  constructor
  · rw [Dialogue.inOrder, texts (dialogueMovies ▸ movies.map _), texts (dialogueHints ▸ hints.map _)]
  · rw [Timing.inOrder, ofList_sorted (timingMovies ▸ movies.map _) ?_,
      ofList_sorted (timingHints ▸ hints.map _) ?_]
    · intro entry member
      rw [timingHints] at member
      obtain ⟨old, -, rfl⟩ := List.mem_map.mp member
      simp [HintTiming.plain, Scene.hintTiming, Line.hintCue_plain]
    · intro entry member
      rw [timingMovies] at member
      obtain ⟨old, -, rfl⟩ := List.mem_map.mp member
      simp [Scene.cues, Line.cue_plain]

/-- The documents of a script, read back, give no cause to warn. -/
theorem transcript_causes_nothing (script : Script) (speakers : OrderedMap String String)
    (notice : Notice) :
    ¬ Staging.Cause (script.transcript speakers).dialogue.inOrder
      (script.transcript speakers).timing notice := by
  obtain ⟨timingMovies, timingHints⟩ := script.transcript_timing speakers
  obtain ⟨dialogueMovies, dialogueHints⟩ := script.transcript_dialogue speakers
  obtain ⟨movieTexts, hintTexts⟩ := script.transcript_texts speakers
  have known {name : String} {scene : Scene} (found : script.scenes.find? name = some scene)
      (valid : scene.kind ≠ .invalid) (line : Line) (member : line ∈ scene.lines)
      (said : line.isClear = false) :
      speakerKey (speakerKeys speakers) line.speaker = "" ∨
        (OrderedMap.ofList ((script.transcript speakers).dialogue.speakers.sorted byName)).contains
          (speakerKey (speakerKeys speakers) line.speaker) := by
    rw [OrderedMap.contains, OrderedMap.find?_ofList_sorted]
    exact transcript_knows speakers found valid member said
  rw [(transcript_inOrder script speakers).1]
  intro cause
  cases cause with
  | cutsceneUntimed told untimed =>
    apply untimed
    rw [OrderedMap.keys, timingMovies]
    rw [OrderedMap.keys, dialogueMovies] at told
    simpa using told
  | hintUntimed told untimed =>
    apply untimed
    rw [OrderedMap.keys, timingHints]
    rw [OrderedMap.keys, dialogueHints] at told
    simpa using told
  | cutscene timed cause =>
    rw [timingMovies] at timed
    obtain ⟨⟨name, scene⟩, movie, same⟩ := List.mem_map.mp timed
    cases same
    obtain ⟨found, kind⟩ := (script.mem_movies name scene).mp movie
    have texts := movieTexts (name, scene) movie
    simp only [id, texts, Option.getD_some] at cause
    have valid : scene.kind ≠ .invalid := by
      intro invalid
      rw [invalid] at kind
      cases kind
    exact Staging.written_causes_nothing _ (known found valid) _ _ _ cause
  | hint timed cause =>
    rw [timingHints] at timed
    obtain ⟨⟨name, scene⟩, hint, same⟩ := List.mem_map.mp timed
    cases same
    obtain ⟨found, kind⟩ := (script.mem_hints name scene).mp hint
    have texts := hintTexts (name, scene) hint
    simp only [id, texts, Option.getD_some, Scene.hintTiming, Line.hintCues_toCue, Scene.texts] at cause
    rw [← Line.onScreen_texts] at cause
    have valid : scene.kind ≠ .invalid := by
      intro invalid
      rw [invalid] at kind
      cases kind
    refine Staging.written_causes_nothing _ (fun line member => ?_) _ _ _ cause
    obtain ⟨own, there, rfl⟩ := List.mem_map.mp member
    exact known found valid own there

end Script

/-- What is shown of a scene: when, and which text. -/
def Scene.shown (scene : Scene) : List (Int × String) :=
  scene.lines.map fun line => (line.frame, line.text)

theorem Scene.restored_shown (speakers : OrderedMap String String) (name : String) (scene : Scene) :
    (scene.restored speakers name).shown = scene.shown := by
  unfold restored shown
  split <;> simp [Line.onScreen]

namespace Desk

/-- Whatever is written can be read again, without a warning. No scene is lost that has a kind, and
nothing that is shown of it. Only a language that cannot be written is in the way. -/
theorem written_script_is_read_as_it_shows {script : Script} (natural : script.NaturalIds)
    (ordered : script.InFrameOrder) {source : ScriptSource} (json : source.format = .json)
    (spoken : 0 ≤ source.language) (writable : Numeral.isWritable source.language = true)
    {blank : Desk} (bare : blank.store.scripts = .empty)
    (speakers : Option (OrderedMap String String)) (listeners audience : Option Audience)
    (replace : Bool) :
    ∃ transcript dialogue timing,
      (∀ σ : Type, (script.compose listeners (speakers.getD .empty) : Edit σ Transcript).Yields
        (.ok transcript)) ∧
      (∃ added, transcript.dialogue.speakers.entries = (speakers.getD .empty).entries ++ added) ∧
      Dialogue.ofValue transcript.dialogue.toValue = .ok dialogue ∧
      Timing.ofValue transcript.timing.toValue = .ok timing ∧
      let loaded := stage audience dialogue timing source replace blank
      warnings loaded.journal = [] ∧
      ∃ made, loaded.result = .ok made ∧ loaded.state.store.script? source.language = some made ∧
        ∀ name, (made.scenes.find? name).map Scene.shown =
          ((script.scenes.find? name).filter fun scene => scene.kind ≠ .invalid).map Scene.shown := by
  let given := speakers.getD .empty
  let transcript := script.transcript given
  refine ⟨transcript, transcript.dialogue.inOrder, transcript.timing.inOrder,
    fun σ => Script.compose_yields natural listeners given, script.transcript_extends given,
    Dialogue.ofValue_toValue _, Timing.ofValue_toValue _, ?_⟩
  obtain ⟨sorted, fixed⟩ := Script.transcript_inOrder script given
  rw [fixed]
  intro loaded
  constructor
  · apply List.eq_nil_iff_forall_not_mem.mpr
    intro notice told
    exact Script.transcript_causes_nothing script given notice
      (stage_warns audience _ _ source replace blank notice told)
  · obtain ⟨made, result, stored, scenes⟩ := stage_transcript given natural ordered json spoken
      writable bare audience replace
    have same : admitted transcript.dialogue.inOrder transcript.timing source replace blank.store =
        admitted transcript.dialogue transcript.timing source replace blank.store := by
      unfold admitted
      rw [built_json json spoken, built_json json spoken, sorted]
      rw [Staging.scenesOf_congr (Staging.displayName_sorted _)]
    have original := (stage_result audience).symm.trans result
    obtain ⟨read, state⟩ := stage_admitted audience (same.trans original)
    rw [(stage_admitted audience original).2] at stored
    refine ⟨made, read, by rw [state, stored], fun name => ?_⟩
    rw [scenes name, Option.map_map]
    exact congrArg (Option.map · _) (funext (Scene.restored_shown given name))

/-- A clear line with a speaker, and a speaker whose name is the key of another one. -/
theorem crossed_speakers_are_read_as_they_show :
    let scene : Scene := { name := "a", kind := .namedHint, id := 7, lines :=
      [⟨-2, "", "Keira", true⟩, ⟨3, "Hi", "jak", true⟩, ⟨3, "Yo", "Jak", false⟩] }
    let script : Script := { language := 4, scenes := .ofList [("a", scene)] }
    let speakers : OrderedMap String String := .ofList [("", "Jak"), ("jak", "Daxter")]
    let source : ScriptSource := { language := 0 }
    ∃ (transcript : Transcript) (dialogue : Dialogue) (timing : Timing),
      (script.compose none speakers : Edit Unit Transcript).Yields (.ok transcript) ∧
      Dialogue.ofValue transcript.dialogue.toValue = .ok dialogue ∧
      Timing.ofValue transcript.timing.toValue = .ok timing ∧
      let loaded := stage none dialogue timing source false ⟨.new none none, []⟩
      warnings loaded.journal = [] ∧ ∃ made, loaded.result = .ok made ∧
        (made.scenes.find? "a").map Scene.shown = some [(-2, ""), (3, "Hi"), (3, "Yo")] := by
  intro scene script speakers source
  have natural : script.NaturalIds := by
    intro name found there hint
    obtain ⟨-, rfl⟩ := OrderedMap.find?_single there
    decide
  have ordered : script.InFrameOrder := by
    intro name found there
    obtain ⟨-, rfl⟩ := OrderedMap.find?_single there
    simp [Libretto.InFrameOrder, scene]
  have json : source.format = .json := rfl
  have bare : (⟨.new none none, []⟩ : Desk).store.scripts = .empty := rfl
  have writable : Numeral.isWritable source.language = true := by decide +kernel
  obtain ⟨transcript, dialogue, timing, composed, -, read, timed, quiet, made, result, -, shown⟩ :=
    written_script_is_read_as_it_shows natural ordered json (Int.le_refl 0) writable bare
      (some speakers) none none false
  exact ⟨transcript, dialogue, timing, composed Unit, read, timed, quiet, made, result, shown "a"⟩

/-- A script of such a language can be written, but not read. -/
theorem unwritable_language_is_written_but_not_read :
    let scene : Scene := { name := "h", kind := .hint, id := 1, lines := [⟨0, "hi", "", false⟩] }
    let script : Script :=
      { language := Nat.pow 10 Numeral.decimalLimit, scenes := .ofList [("h", scene)] }
    let source : ScriptSource := { language := script.language }
    0 ≤ script.language ∧ script.NaturalIds ∧ script.InFrameOrder ∧
      ∃ (transcript : Transcript) (dialogue : Dialogue) (timing : Timing),
        (script.compose none .empty : Edit Unit Transcript).Yields (.ok transcript) ∧
        Dialogue.ofValue transcript.dialogue.toValue = .ok dialogue ∧
        Timing.ofValue transcript.timing.toValue = .ok timing ∧
        (stage none dialogue timing source false ⟨.new none none, []⟩).result =
          .error .unwritableInteger := by
  intro scene script source
  have spoken : 0 ≤ source.language := Int.natCast_nonneg _
  have huge : Numeral.isWritable source.language = false := Numeral.isWritable_bound
  have natural : script.NaturalIds := by
    intro name found there hint
    obtain ⟨-, rfl⟩ := OrderedMap.find?_single there
    decide
  have ordered : script.InFrameOrder := by
    intro name found there
    obtain ⟨-, rfl⟩ := OrderedMap.find?_single there
    simp [Libretto.InFrameOrder, scene]
  refine ⟨spoken, natural, ordered, script.transcript .empty, _, _,
    Script.compose_yields natural none .empty, Dialogue.ofValue_toValue _,
    Timing.ofValue_toValue _, ?_⟩
  obtain ⟨sorted, fixed⟩ := Script.transcript_inOrder script .empty
  have made := Script.scenesOf_transcript .empty natural ordered source.language
  rw [stage_result, admitted_blank rfl, built_json rfl spoken, fixed, sorted,
    Staging.scenesOf_congr (Staging.displayName_sorted _), made]
  simp only [Except.bind, written_error huge]

end Desk

end Libretto
