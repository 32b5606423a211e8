import Libretto.Proofs.Edits
import Libretto.Proofs.HexNumerals
import Libretto.Proofs.OrderedMaps
import Libretto.Proofs.SpeakerKeys

/-! The documents that a script is written as, in closed form: the scenes come in the order of
their names, cutscenes in one section and hints in the other, each scene once. Only a negative id of
a hint is in the way. -/
namespace Libretto

def Scene.cues (keys : OrderedMap String String) (scene : Scene) : List Cue :=
  scene.lines.map (Line.cue keys)

def Scene.hintTiming (keys : OrderedMap String String) (scene : Scene) : HintTiming :=
  ⟨HexId.text 1 scene.id.toNat, scene.lines.map (Line.hintCue keys)⟩

namespace Transcript

/-- A scene added by hand, its id written as it stands. -/
def enter (keys : OrderedMap String String) (transcript : Transcript) (entry : String × Scene) :
    Transcript :=
  match entry.2.kind with
  | .movie => transcript.addCutscene keys entry.1 entry.2
  | .hint | .namedHint =>
    transcript.addHint keys entry.1 (HexId.text 1 entry.2.id.toNat) entry.2
  | .invalid => transcript

def movies (entries : List (String × Scene)) : List (String × Scene) :=
  entries.filter fun entry => entry.2.kind = .movie

def hints (entries : List (String × Scene)) : List (String × Scene) :=
  entries.filter fun entry => entry.2.kind.isHint

/-- A scene added, unless its id cannot be written. -/
def added (keys : OrderedMap String String) (transcript : Transcript) (entry : String × Scene) :
    Except Fault Transcript :=
  match entry.2.kind with
  | .movie => .ok (transcript.addCutscene keys entry.1 entry.2)
  | .hint | .namedHint =>
    (HexId.format entry.2.id 1).map fun id => transcript.addHint keys entry.1 id entry.2
  | .invalid => .ok transcript

theorem addScene_yields (audience : Option Audience) (keys : OrderedMap String String)
    (transcript : Transcript) (entry : String × Scene) :
    (addScene audience keys transcript entry : Edit σ Transcript).Yields
      (transcript.added keys entry) := by
  unfold addScene added
  dsimp only
  cases entry.2.kind with
  | movie => exact .pure _
  | invalid => exact .bind_ok (.report _ _) (.pure _)
  | hint | namedHint =>
    intro state
    dsimp only
    cases HexId.format entry.2.id 1 <;> rfl

theorem added_natural {keys : OrderedMap String String} {entry : String × Scene}
    (natural : entry.2.kind.isHint → 0 ≤ entry.2.id) (transcript : Transcript) :
    transcript.added keys entry = .ok (transcript.enter keys entry) := by
  unfold added enter
  cases kind : entry.2.kind with
  | movie | invalid => rfl
  | hint | namedHint =>
    rw [HexId.format_one (natural (by rw [kind]; rfl))]
    rfl

/-- Each section grows by the scenes of its kind. -/
theorem enterAll_sections (keys : OrderedMap String String) (entries : List (String × Scene))
    (transcript : Transcript) :
    let later := entries.foldl (enter keys) transcript
    later.dialogue.cutscenes =
      transcript.dialogue.cutscenes.extend ((movies entries).map (Prod.map id Scene.texts)) ∧
    later.dialogue.hints =
      transcript.dialogue.hints.extend ((hints entries).map (Prod.map id Scene.texts)) ∧
    later.timing.cutscenes =
      transcript.timing.cutscenes.extend ((movies entries).map (Prod.map id (Scene.cues keys))) ∧
    later.timing.hints =
      transcript.timing.hints.extend ((hints entries).map (Prod.map id (Scene.hintTiming keys))) := by
  induction entries generalizing transcript with
  | nil => exact ⟨rfl, rfl, rfl, rfl⟩
  | cons entry entries ih =>
    have rest := ih (transcript.enter keys entry)
    rw [List.foldl_cons]
    cases kind : entry.2.kind <;>
      simpa [enter, kind, movies, hints, SceneKind.isHint, addCutscene, addHint, credit,
        OrderedMap.extend, Scene.cues, Scene.hintTiming] using rest

/-- The lines that are written. -/
def linesOf (entries : List (String × Scene)) : List Line :=
  (entries.filter fun entry => entry.2.kind ≠ .invalid).flatMap fun entry => entry.2.lines

/-- The speakers grow by those whom the lines name. -/
theorem enterAll_credits (keys : OrderedMap String String) (entries : List (String × Scene))
    (transcript : Transcript) :
    (entries.foldl (enter keys) transcript).dialogue.speakers =
      (linesOf entries).foldl (creditSpeaker keys) transcript.dialogue.speakers := by
  induction entries generalizing transcript with
  | nil => rfl
  | cons entry entries ih =>
    rw [List.foldl_cons, ih]
    cases kind : entry.2.kind <;>
      simp [linesOf, enter, kind, addCutscene, addHint, credit]

end Transcript

namespace Script

/-- The ids of hints can be written. -/
def NaturalIds (script : Script) : Prop :=
  ∀ name scene, script.scenes.find? name = some scene → scene.kind.isHint → 0 ≤ scene.id

/-- The documents of a script. -/
def transcript (script : Script) (speakers : OrderedMap String String) : Transcript :=
  script.inOrder.foldl (Transcript.enter (speakerKeys speakers)) { dialogue := { speakers } }

theorem mem_inOrder (script : Script) (name : String) (scene : Scene) :
    (name, scene) ∈ script.inOrder ↔ script.scenes.find? name = some scene := by
  rw [OrderedMap.find?_eq_some_iff]
  exact mem_arrange _ script.scenes.entries (name, scene)

theorem inOrder_distinct (script : Script) : (script.inOrder.map Prod.fst).Nodup :=
  (((arrange_perm _ script.scenes.entries).map Prod.fst).nodup_iff).mpr script.scenes.distinct

/-- The documents of any script, if none of its ids is in the way. -/
def composed (script : Script) (speakers : OrderedMap String String) : Except Fault Transcript :=
  script.inOrder.foldlM (Transcript.added (speakerKeys speakers)) { dialogue := { speakers } }

theorem compose_composed (audience : Option Audience) (script : Script)
    (speakers : OrderedMap String String) :
    (script.compose audience speakers : Edit σ Transcript).Yields (script.composed speakers) :=
  .foldlM (fun transcript entry _ => Transcript.addScene_yields audience _ transcript entry) _

theorem compose_yields {script : Script} (natural : script.NaturalIds)
    (audience : Option Audience) (speakers : OrderedMap String String) :
    (script.compose audience speakers : Edit σ Transcript).Yields
      (.ok (script.transcript speakers)) := by
  have entered : script.composed speakers = .ok (script.transcript speakers) := by
    refine foldlM_ok_of_each (fun transcript entry member => ?_) _
    exact Transcript.added_natural
      (natural entry.1 entry.2 ((mem_inOrder script entry.1 entry.2).mp member)) transcript
  exact entered ▸ compose_composed audience script speakers

/-- Scenes entered under their keys stay as they were listed. -/
theorem entries_entered {entries : List (String × Scene)} {ν : Type} (f : Scene → ν)
    (distinct : (entries.map Prod.fst).Nodup) :
    (OrderedMap.ofList (entries.map (Prod.map id f))).entries = entries.map (Prod.map id f) := by
  apply OrderedMap.entries_ofList
  rw [List.map_map]
  exact distinct

variable (script : Script) (speakers : OrderedMap String String)

theorem movies_distinct : ((Transcript.movies script.inOrder).map Prod.fst).Nodup :=
  script.inOrder_distinct.sublist (List.filter_sublist.map _)

theorem hints_distinct : ((Transcript.hints script.inOrder).map Prod.fst).Nodup :=
  script.inOrder_distinct.sublist (List.filter_sublist.map _)

theorem transcript_credits :
    (script.transcript speakers).dialogue.speakers =
      (Transcript.linesOf script.inOrder).foldl (creditSpeaker (speakerKeys speakers)) speakers :=
  Transcript.enterAll_credits (speakerKeys speakers) script.inOrder _

theorem transcript_speakers :
    Staging.displayName (script.transcript speakers).dialogue.speakers =
      Staging.displayName speakers := by
  rw [transcript_credits]
  exact Staging.displayName_credit _ _ speakers

/-- What is given of the speakers stays in front. -/
theorem transcript_extends : ∃ added,
    (script.transcript speakers).dialogue.speakers.entries = speakers.entries ++ added := by
  rw [transcript_credits]
  exact credited_extends _ _ speakers

/-- The timing lists the scenes of each kind as they come. -/
theorem transcript_timing :
    (script.transcript speakers).timing.cutscenes.entries =
      (Transcript.movies script.inOrder).map (Prod.map id (Scene.cues (speakerKeys speakers))) ∧
    (script.transcript speakers).timing.hints.entries =
      (Transcript.hints script.inOrder).map (Prod.map id (Scene.hintTiming (speakerKeys speakers))) := by
  obtain ⟨-, -, movies, hints⟩ := Transcript.enterAll_sections (speakerKeys speakers)
    script.inOrder { dialogue := { speakers } }
  exact ⟨(congrArg _ movies).trans (entries_entered _ script.movies_distinct),
    (congrArg _ hints).trans (entries_entered _ script.hints_distinct)⟩

/-- And so does the dialogue. -/
theorem transcript_dialogue :
    (script.transcript speakers).dialogue.cutscenes.entries =
      (Transcript.movies script.inOrder).map (Prod.map id Scene.texts) ∧
    (script.transcript speakers).dialogue.hints.entries =
      (Transcript.hints script.inOrder).map (Prod.map id Scene.texts) := by
  obtain ⟨movies, hints, -, -⟩ := Transcript.enterAll_sections (speakerKeys speakers)
    script.inOrder { dialogue := { speakers } }
  exact ⟨(congrArg _ movies).trans (entries_entered _ script.movies_distinct),
    (congrArg _ hints).trans (entries_entered _ script.hints_distinct)⟩

/-- Every scene finds its own texts. -/
theorem transcript_texts :
    (∀ entry ∈ Transcript.movies script.inOrder,
      (script.transcript speakers).dialogue.cutscenes.find? entry.1 = some entry.2.texts) ∧
    ∀ entry ∈ Transcript.hints script.inOrder,
      (script.transcript speakers).dialogue.hints.find? entry.1 = some entry.2.texts := by
  obtain ⟨movies, hints⟩ := script.transcript_dialogue speakers
  constructor
  · intro entry member
    rw [OrderedMap.find?_eq_some_iff, movies]
    exact List.mem_map_of_mem member
  · intro entry member
    rw [OrderedMap.find?_eq_some_iff, hints]
    exact List.mem_map_of_mem member

end Script

end Libretto
