import Libretto.Proofs.LoadAgreement
import Libretto.Proofs.Transcription

/-! Scripts read back from the documents they are written as. A scene comes back under its
key, its lines one by one; what may be lost of a line is its speaker, and all but the frame if
there is no text. -/
namespace Libretto

variable {speakers : OrderedMap String String}

namespace Line

/-- A line as it is read back. -/
def reread (speakers : OrderedMap String String) (line : Line) : Line :=
  if line.isClear then .clear line.frame
  else { line with speaker := Staging.reread speakers line.speaker }

/-- Hints have no picture that a speaker could be outside of. -/
def onScreen (line : Line) : Line := { line with offscreen := false }

@[simp] theorem reread_frame (line : Line) : (line.reread speakers).frame = line.frame := by
  unfold reread
  split <;> rfl

@[simp] theorem reread_text (line : Line) : (line.reread speakers).text = line.text := by
  unfold reread
  split
  next clear => exact (String.isEmpty_iff.mp clear).symm
  next => rfl

theorem hintCue_toCue (keys : OrderedMap String String) (line : Line) :
    (line.hintCue keys).toCue = line.onScreen.cue keys := by
  have same : line.onScreen.isClear = line.isClear := rfl
  rw [hintCue, cue, same]
  cases line.isClear <;> rfl

/-- The cues of a hint are those of a cutscene that is all on screen, and so are its texts. -/
theorem hintCues_toCue (keys : OrderedMap String String) (lines : List Line) :
    (lines.map (hintCue keys)).map HintCue.toCue = (lines.map onScreen).map (cue keys) := by
  rw [List.map_map, List.map_map]
  exact List.map_congr_left fun line _ => hintCue_toCue keys line

theorem onScreen_texts (lines : List Line) :
    ((lines.map onScreen).filter fun line => !line.isClear).map text =
      (lines.filter fun line => !line.isClear).map text := by
  rw [List.filter_map, List.map_map]
  rfl

end Line

theorem InFrameOrder.map {lines : List Line} (ordered : InFrameOrder lines) {f : Line → Line}
    (same : ∀ line, (f line).frame = line.frame) : InFrameOrder (lines.map f) := by
  apply List.pairwise_map.mpr
  apply ordered.imp
  intro first second rising
  rw [same, same]
  exact rising

namespace Scene

/-- A scene as it is read back under a name. -/
def restored (speakers : OrderedMap String String) (name : String) (scene : Scene) : Scene :=
  if scene.kind.isHint then
    { name, kind := if scene.id = 0 then .namedHint else .hint, id := scene.id,
      lines := scene.lines.map fun line => line.onScreen.reread speakers }
  else { name, lines := scene.lines.map (Line.reread speakers) }

@[simp] theorem restored_name (name : String) (scene : Scene) :
    (scene.restored speakers name).name = name := by
  unfold restored
  split <;> rfl

/-- Lines that are in order are put where they stand. -/
theorem addAll_of_ordered {scene : Scene} {lines : List Line} (bare : scene.lines = [])
    (ordered : InFrameOrder lines) : scene.addAll lines = { scene with lines } := by
  have same := arrange_of_arranged lines ((arranged_lines_iff lines).mpr ordered)
  rw [addAll_eq, bare]
  exact congrArg (fun lines => { scene with lines }) same

end Scene

namespace Staging

/-- Cues and texts that were taken apart meet again, line by line. -/
theorem timed?_cues {credited : OrderedMap String String}
    (same : displayName credited = displayName speakers) (lines : List Line) :
    timed? credited (lines.map (Line.cue (speakerKeys speakers)))
        ((lines.filter fun line => !line.isClear).map Line.text) =
      some (lines.map (Line.reread speakers)) := by
  induction lines with
  | nil => rfl
  | cons line lines ih =>
    cases clear : line.isClear with
    | true => simp [timed?, Line.cue, clear, ih, Line.reread]
    | false => simp [timed?, Line.cue, clear, ih, Line.reread, same, reread]

theorem timed?_hintCues {credited : OrderedMap String String}
    (same : displayName credited = displayName speakers) (lines : List Line) :
    timed? credited ((lines.map (Line.hintCue (speakerKeys speakers))).map HintCue.toCue)
        ((lines.filter fun line => !line.isClear).map Line.text) =
      some (lines.map fun line => line.onScreen.reread speakers) := by
  rw [Line.hintCues_toCue, ← Line.onScreen_texts, timed?_cues same, List.map_map]
  rfl

theorem filled_ordered {part : Part} {cues : List Cue} {texts : List String} {lines : List Line}
    {scene : Scene} (timed : timed? speakers cues texts = some lines) (bare : scene.lines = [])
    (ordered : InFrameOrder lines) :
    filled speakers part cues texts scene = .ok { scene with lines } := by
  rw [filled, timed]
  exact congrArg Except.ok (Scene.addAll_of_ordered bare ordered)

end Staging

namespace Script
variable (script : Script) (speakers : OrderedMap String String)

/-- The scenes that are written, in the order in which they are read back. -/
def written (script : Script) : List (String × Scene) :=
  Transcript.movies script.inOrder ++ Transcript.hints script.inOrder

theorem mem_movies (name : String) (scene : Scene) :
    (name, scene) ∈ Transcript.movies script.inOrder ↔
      script.scenes.find? name = some scene ∧ scene.kind = .movie := by
  rw [Transcript.movies, List.mem_filter, mem_inOrder, decide_eq_true_eq]

theorem mem_hints (name : String) (scene : Scene) :
    (name, scene) ∈ Transcript.hints script.inOrder ↔
      script.scenes.find? name = some scene ∧ scene.kind.isHint = true := by
  rw [Transcript.hints, List.mem_filter, mem_inOrder]

theorem mem_written (name : String) (scene : Scene) : (name, scene) ∈ script.written ↔
    script.scenes.find? name = some scene ∧ scene.kind ≠ .invalid := by
  rw [written, List.mem_append, mem_movies, mem_hints, ← and_or_left]
  cases scene.kind <;> simp [SceneKind.isHint]

def InFrameOrder (script : Script) : Prop :=
  ∀ name scene, script.scenes.find? name = some scene → Libretto.InFrameOrder scene.lines

variable {script}

/-- The cutscene of a movie that was written. -/
theorem cutsceneOf_movie (ordered : script.InFrameOrder) {entry : String × Scene}
    (member : entry ∈ Transcript.movies script.inOrder) :
    Staging.cutsceneOf (script.transcript speakers).dialogue
        (Prod.map id (Scene.cues (speakerKeys speakers)) entry) =
      .ok (entry.2.restored speakers entry.1) := by
  obtain ⟨name, scene⟩ := entry
  obtain ⟨found, movie⟩ := (script.mem_movies name scene).mp member
  have texts := (script.transcript_texts speakers).1 (name, scene) member
  have timed := Staging.timed?_cues (script.transcript_speakers speakers) scene.lines
  have rising : Libretto.InFrameOrder (scene.lines.map (Line.reread speakers)) :=
    (ordered name scene found).map Line.reread_frame
  simp only [Staging.cutsceneOf, Prod.map, id, texts, Option.getD_some]
  rw [Scene.restored, movie]
  exact Staging.filled_ordered timed rfl rising

theorem hintOf_hint (natural : script.NaturalIds) (ordered : script.InFrameOrder) (language : Int)
    {entry : String × Scene} (member : entry ∈ Transcript.hints script.inOrder) :
    Staging.hintOf (script.transcript speakers).dialogue (script.transcript speakers).timing language
        (Prod.map id (Scene.hintTiming (speakerKeys speakers)) entry) =
      .ok (entry.2.restored speakers entry.1) := by
  obtain ⟨name, scene⟩ := entry
  obtain ⟨found, hint⟩ := (script.mem_hints name scene).mp member
  have texts := (script.transcript_texts speakers).2 (name, scene) member
  have timed := Staging.timed?_hintCues (script.transcript_speakers speakers) scene.lines
  have id_eq : (scene.id.toNat : Int) = scene.id := Int.toNat_of_nonneg (natural name scene found hint)
  have rising : Libretto.InFrameOrder
      (scene.lines.map fun line => line.onScreen.reread speakers) :=
    (ordered name scene found).map fun line => Line.reread_frame line.onScreen
  -- A cutscene of the same name would be another scene under one key.
  have apart : (script.transcript speakers).timing.cutscenes.contains name = false := by
    rw [OrderedMap.contains_eq_false_iff, OrderedMap.find?_eq_none_iff, OrderedMap.keys,
      (script.transcript_timing speakers).1, List.map_map]
    intro there
    obtain ⟨⟨_, other⟩, movie, rfl⟩ := List.mem_map.mp there
    obtain ⟨also, kind⟩ := (script.mem_movies _ other).mp movie
    obtain rfl : scene = other := Option.some.inj (found.symm.trans also)
    rw [kind] at hint
    cases hint
  simp only [Staging.hintOf, Prod.map, id, apart, Bool.false_eq_true, if_false, texts,
    Option.getD_some, Scene.hintTiming, HexId.ofValue_text, id_eq, bind, Except.bind]
  rw [Scene.restored, if_pos hint]
  exact Staging.filled_ordered timed rfl rising

/-- The documents of a script make its scenes again, those of no kind apart. -/
theorem scenesOf_transcript (natural : script.NaturalIds) (ordered : script.InFrameOrder)
    (language : Int) :
    Staging.scenesOf (script.transcript speakers).dialogue (script.transcript speakers).timing
        language =
      .ok (script.written.map fun entry => entry.2.restored speakers entry.1) := by
  obtain ⟨movies, hints⟩ := script.transcript_timing speakers
  have first := mapM_ok_of_each fun entry => cutsceneOf_movie speakers ordered
  have second := mapM_ok_of_each fun entry =>
    hintOf_hint speakers natural ordered language
  rw [Staging.scenesOf, movies, hints, List.mapM_map, List.mapM_map]
  simp only [Function.comp_def]
  rw [first, second, written, List.map_append]
  rfl

/-- A scene is read back under the key that it was written under. -/
theorem find?_restored (natural : script.NaturalIds) (ordered : script.InFrameOrder)
    (name : String) :
    (script.written.map fun entry => entry.2.restored speakers entry.1).find? (·.name = name) =
      ((script.scenes.find? name).filter fun scene => scene.kind ≠ .invalid).map
        (Scene.restored speakers name) := by
  have distinct := Staging.scenesOf_distinct
    (scenesOf_transcript speakers natural ordered 0)
  cases kept : (script.scenes.find? name).filter fun scene => scene.kind ≠ .invalid with
  | some scene =>
    obtain ⟨found, valid⟩ := Option.filter_eq_some_iff.mp kept
    have member : (name, scene) ∈ script.written :=
      (script.mem_written name scene).mpr ⟨found, of_decide_eq_true valid⟩
    have there := List.mem_map_of_mem (f := fun entry : String × Scene =>
      entry.2.restored speakers entry.1) member
    have first := find?_name distinct there
    rwa [Scene.restored_name] at first
  | none =>
    apply List.find?_eq_none.mpr
    intro scene there same
    obtain ⟨⟨key, old⟩, member, rfl⟩ := List.mem_map.mp there
    obtain ⟨found, valid⟩ := (script.mem_written key old).mp member
    have called : key = name := by simpa using same
    rw [called] at found
    simp [found, valid] at kept

end Script

namespace Desk

variable (speakers : OrderedMap String String) {source : ScriptSource} {blank : Desk}
  {script : Script}

/-- What has been written can be read into an empty store, scene by scene. -/
theorem stage_transcript (natural : script.NaturalIds) (ordered : script.InFrameOrder)
    (json : source.format = .json) (language : 0 ≤ source.language)
    (writable : Numeral.isWritable source.language = true) (bare : blank.store.scripts = .empty)
    (audience : Option Audience) (replace : Bool) :
    let transcript := script.transcript speakers
    let loaded := stage audience transcript.dialogue transcript.timing source replace blank
    ∃ made, loaded.result = .ok made ∧ loaded.state.store.script? source.language = some made ∧
      ∀ name, made.scenes.find? name =
        ((script.scenes.find? name).filter fun scene => scene.kind ≠ .invalid).map
          (Scene.restored speakers name) := by
  intro transcript loaded
  have scenes := Script.scenesOf_transcript speakers natural ordered source.language
  have distinct := Staging.scenesOf_distinct scenes
  let made := (Staging.freshScript source blank.store.audience).overrideAll
    (script.written.map fun entry => entry.2.restored speakers entry.1)
  have admitted : admitted transcript.dialogue transcript.timing source replace blank.store =
      .ok made := by
    rw [admitted_blank bare, built_json json language, scenes]
    simp only [Except.bind, written_ok writable, made]
  obtain ⟨result, state⟩ := stage_admitted audience admitted
  refine ⟨made, result, ?_, fun name => ?_⟩
  · have own : made.language = source.language := Script.overrideAll_language ..
    rw [state, ScriptStore.script?_putScript, if_pos own]
  · exact (Staging.freshScript_scenes distinct blank.store.audience name).trans
      (Script.find?_restored speakers natural ordered name)

end Desk

end Libretto
