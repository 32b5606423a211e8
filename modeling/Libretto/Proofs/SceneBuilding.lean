import Libretto.Proofs.Edits
import Libretto.Proofs.HexNumerals
import Libretto.Proofs.OrderedMaps
import Libretto.Proofs.SortedLists
import Libretto.Staging

/-! The scenes that dialogue and timing make, as a function of these two alone. What has
been reported before and who listens change the journal only. The scenes built have
distinct names, which is what storing them relies on. -/
namespace Libretto

theorem Line.before_ranks : Ranks Line.before := by
  constructor
  · intro a b
    simp only [Line.before, decide_eq_true_eq, decide_eq_false_iff_not]
    omega
  · intro a b c
    simp only [Line.before, decide_eq_false_iff_not]
    omega

/-- Lines by their frames, those of one frame in any order. -/
def InFrameOrder (lines : List Line) : Prop := lines.Pairwise fun a b => a.frame ≤ b.frame

theorem arranged_lines_iff (lines : List Line) :
    Arranged Line.before lines ↔ InFrameOrder lines := by
  simp [Arranged, InFrameOrder, Line.before]

namespace Scene

/-- Lines are all that adding changes. -/
theorem addAll_eq (scene : Scene) (lines : List Line) : scene.addAll lines =
    { scene with
      lines := lines.foldl (fun sorted line => place Line.before line sorted) scene.lines } := by
  induction lines generalizing scene with
  | nil => rfl
  | cons line lines ih => exact ih (scene.add line)

/-- What a scene is when it has been built from documents. -/
structure Proper (scene : Scene) : Prop where
  kind : (scene.kind = .movie ∧ scene.id = 0) ∨ (scene.kind = .hint ∧ 0 < scene.id) ∨
    (scene.kind = .namedHint ∧ scene.id = 0)
  ordered : InFrameOrder scene.lines
  onScreen : scene.kind.isHint → ∀ line ∈ scene.lines, line.offscreen = false

/-- A scene that no grouping has been assigned to. -/
def Loose (scene : Scene) : Prop := scene.group = "" ∧ scene.groupIndex = -1

end Scene

namespace Staging

/-- The name under which the speaker with a key is shown. -/
def displayName (speakers : OrderedMap String String) (key : String) : String :=
  if key.isEmpty then "" else (speakers.find? key).getD key

/-- The lines of a scene in the order of its cues, unless its texts run out. -/
def timed? (speakers : OrderedMap String String) : List Cue → List String → Option (List Line)
  | [], _ => some []
  | cue :: cues, texts =>
    if cue.clear then (timed? speakers cues texts).map (.clear cue.frame :: ·)
    else match texts with
      | [] => none
      | text :: texts => (timed? speakers cues texts).map
          (⟨cue.frame, text, displayName speakers cue.speaker, cue.offscreen⟩ :: ·)

/-- A scene filled with all of its lines. -/
def filled (speakers : OrderedMap String String) (part : Part) (cues : List Cue)
    (texts : List String) (scene : Scene) : Except Fault Scene :=
  match timed? speakers cues texts with
  | some lines => .ok (scene.addAll lines)
  | none => .error (.missingTexts part scene.name texts.length)

def cutsceneOf (dialogue : Dialogue) (entry : String × List Cue) : Except Fault Scene :=
  filled dialogue.speakers .cutscene entry.2 ((dialogue.cutscenes.find? entry.1).getD [])
    { name := entry.1 }

def hintOf (dialogue : Dialogue) (timing : Timing) (language : Int)
    (entry : String × HintTiming) : Except Fault Scene :=
  if timing.cutscenes.contains entry.1 then
    .error (Fault.naming language (.duplicateScene entry.1 language))
  else do
    let id ← HexId.ofValue (.str entry.2.id)
    filled dialogue.speakers .hint (entry.2.cues.map HintCue.toCue)
      ((dialogue.hints.find? entry.1).getD [])
      { name := entry.1, kind := if id = 0 then .namedHint else .hint, id }

/-- The scenes of two documents, cutscenes first. -/
def scenesOf (dialogue : Dialogue) (timing : Timing) (language : Int) :
    Except Fault (List Scene) := do
  let cutscenes ← timing.cutscenes.entries.mapM (cutsceneOf dialogue)
  let hints ← timing.hints.entries.mapM (hintOf dialogue timing language)
  .ok (cutscenes ++ hints)

variable {audience : Option Audience} {speakers : OrderedMap String String}

theorem speakerName_yields (key : String) :
    (speakerName audience speakers key).Yields (.ok (displayName speakers key)) := by
  intro reported
  simp only [speakerName, displayName]
  split
  · rfl
  · cases speakers.find? key with
    | some name => rfl
    | none =>
      by_cases known : key ∈ reported
      · simp [known]
      · simp only [Edit.run_bind, Edit.run_get, known, not_false_eq_true, if_true]
        rfl

theorem speakerName_spares (key : String) :
    (speakerName audience speakers key).Spares fun _ => () := by
  refine fun reported => ⟨rfl, ?_⟩
  simp only [speakerName]
  split
  · rfl
  · cases speakers.find? key with
    | some name => rfl
    | none =>
      by_cases known : key ∈ reported
      · simp [known]
      · simp only [Edit.run_bind, Edit.run_get, known, not_false_eq_true, if_true]
        simp [Edit.report]

/-- Induction on the cues; `total` is what the fault tells, the texts are those left. -/
theorem fill_yields (part : Part) (total : Nat) (cues : List Cue) (texts : List String)
    (scene : Scene) : (fill audience speakers part total cues texts scene).Yields
      (match timed? speakers cues texts with
        | some lines => .ok (scene.addAll lines)
        | none => .error (.missingTexts part scene.name total)) := by
  induction cues generalizing texts scene with
  | nil =>
    simp only [fill, timed?]
    split
    · exact .bind_ok (.report _ _) (.pure _)
    · exact .pure _
  | cons cue cues ih =>
    simp only [fill, timed?]
    split
    · intro reported
      rw [ih texts (scene.add (.clear cue.frame)) reported]
      cases timed? speakers cues texts <;> rfl
    · cases texts with
      | nil => exact .fail _
      | cons text texts =>
        refine .bind_ok (speakerName_yields cue.speaker) fun reported => ?_
        dsimp only
        rw [ih texts _ reported]
        cases timed? speakers cues texts <;> rfl

theorem fill_spares (part : Part) (total : Nat) (cues : List Cue) (texts : List String)
    (scene : Scene) : (fill audience speakers part total cues texts scene).Spares fun _ => () := by
  induction cues generalizing texts scene with
  | nil =>
    simp only [fill]
    split
    · exact .bind (.report _ _) fun _ => .pure _
    · exact .pure _
  | cons cue cues ih =>
    simp only [fill]
    split
    · exact ih _ _
    · cases texts with
      | nil => exact .fail _
      | cons text texts => exact .bind (speakerName_spares _) fun _ => ih _ _

variable (dialogue : Dialogue) (timing : Timing) (language : Int)

theorem hint_yields (entry : String × HintTiming) :
    (if timing.cutscenes.contains entry.1 then
      Edit.fail (Fault.naming language (.duplicateScene entry.1 language))
    else hint audience dialogue entry.1 entry.2).Yields (hintOf dialogue timing language entry) := by
  unfold hintOf
  split
  · exact .fail _
  · exact .bind (.ofExcept _) fun id => fill_yields _ _ _ _ _

theorem cutscenes_yields : (cutscenes audience dialogue timing).Yields
    (timing.cutscenes.entries.mapM (cutsceneOf dialogue)) :=
  .mapM fun _ _ => fill_yields _ _ _ _ _

theorem hints_yields : (hints audience dialogue timing language).Yields
    (timing.hints.entries.mapM (hintOf dialogue timing language)) :=
  .mapM fun entry _ => hint_yields dialogue timing language entry

theorem scenes_yields : (scenes audience dialogue timing language).Yields
    (scenesOf dialogue timing language) :=
  .bind (cutscenes_yields dialogue timing) fun _ =>
    .bind (hints_yields dialogue timing language) fun _ => .pure _

theorem scenes_spares : (scenes audience dialogue timing language).Spares fun _ => () := by
  refine .bind (.mapM fun entry _ => fill_spares _ _ _ _ _) fun cutscenes =>
    .bind (.mapM fun entry _ => ?_) fun hints => .pure _
  dsimp only
  split
  · exact .fail _
  · exact .bind (.ofExcept _) fun id => fill_spares _ _ _ _ _

theorem reportUntimed_yields (part : Part) (texts cued : List String) :
    (reportUntimed audience part texts cued : Edit σ Unit).Yields (.ok ()) :=
  .forM fun _ _ => .report _ _

theorem reportUntimed_spares {view : σ → υ} (part : Part) (texts cued : List String) :
    (reportUntimed audience part texts cued : Edit σ Unit).Spares view :=
  .forM fun _ _ => .report _ _

variable {dialogue timing language}

theorem filled_ok {part : Part} {cues : List Cue} {texts : List String} {scene built : Scene}
    (done : filled speakers part cues texts scene = .ok built) :
    ∃ lines, timed? speakers cues texts = some lines ∧ built = scene.addAll lines := by
  unfold filled at done
  split at done
  next lines timed =>
    cases done
    exact ⟨lines, timed, rfl⟩
  next => cases done

theorem hintOf_ok {entry : String × HintTiming} {built : Scene}
    (done : hintOf dialogue timing language entry = .ok built) :
    timing.cutscenes.contains entry.1 = false ∧
    ∃ id lines, HexId.ofValue (.str entry.2.id) = .ok id ∧
      timed? dialogue.speakers (entry.2.cues.map HintCue.toCue)
        ((dialogue.hints.find? entry.1).getD []) = some lines ∧
      built = Scene.addAll
        { name := entry.1, kind := if id = 0 then .namedHint else .hint, id } lines := by
  unfold hintOf at done
  split at done
  next => cases done
  next apart =>
    refine ⟨Bool.eq_false_iff.mpr apart, ?_⟩
    cases read : HexId.ofValue (.str entry.2.id) with
    | error fault => simp [read, bind, Except.bind] at done
    | ok id =>
      simp only [read, bind, Except.bind] at done
      obtain ⟨lines, timed, made⟩ := filled_ok done
      exact ⟨id, lines, rfl, timed, made⟩

theorem scenesOf_ok {scenes : List Scene}
    (done : scenesOf dialogue timing language = .ok scenes) :
    ∃ cutscenes hints, timing.cutscenes.entries.mapM (cutsceneOf dialogue) = .ok cutscenes ∧
      timing.hints.entries.mapM (hintOf dialogue timing language) = .ok hints ∧
      scenes = cutscenes ++ hints := by
  unfold scenesOf at done
  cases first : timing.cutscenes.entries.mapM (cutsceneOf dialogue) with
  | error fault => simp [first, bind, Except.bind] at done
  | ok cutscenes =>
    cases second : timing.hints.entries.mapM (hintOf dialogue timing language) with
    | error fault => simp [first, second, bind, Except.bind] at done
    | ok hints =>
      simp only [first, second, bind, Except.bind, Except.ok.injEq] at done
      exact ⟨cutscenes, hints, rfl, rfl, done.symm⟩

/-- Each scene goes by the name of its timing. -/
theorem scenesOf_names {scenes : List Scene}
    (done : scenesOf dialogue timing language = .ok scenes) :
    scenes.map Scene.name = timing.cutscenes.keys ++ timing.hints.keys := by
  obtain ⟨cutscenes, hints, first, second, rfl⟩ := scenesOf_ok done
  rw [List.map_append]
  congr 1
  · apply mapM_ok_image first
    intro entry built made
    obtain ⟨lines, -, rfl⟩ := filled_ok made
    rw [Scene.addAll_eq]
  · apply mapM_ok_image second
    intro entry built made
    obtain ⟨-, id, lines, -, -, rfl⟩ := hintOf_ok made
    rw [Scene.addAll_eq]

/-- The names are distinct in each section, and no hint is let through that has the name of
a cutscene. -/
theorem scenesOf_distinct {scenes : List Scene}
    (done : scenesOf dialogue timing language = .ok scenes) : (scenes.map Scene.name).Nodup := by
  rw [scenesOf_names done, List.nodup_append]
  refine ⟨timing.cutscenes.distinct, timing.hints.distinct, ?_⟩
  rintro name inFirst _ inSecond rfl
  obtain ⟨cutscenes, hints, -, second, -⟩ := scenesOf_ok done
  obtain ⟨entry, member, rfl⟩ := List.mem_map.mp inSecond
  obtain ⟨built, -, made⟩ := mapM_ok_each second entry member
  have apart := (hintOf_ok made).1
  rw [(timing.cutscenes.contains_iff entry.1).mpr inFirst] at apart
  cases apart

theorem timed?_onScreen {cues : List Cue} {texts : List String} {lines : List Line}
    (hidden : ∀ cue ∈ cues, cue.offscreen = false) (timed : timed? speakers cues texts = some lines) :
    ∀ line ∈ lines, line.offscreen = false := by
  induction cues generalizing texts lines with
  | nil =>
    cases timed
    simp
  | cons cue cues ih =>
    have later {texts lines} := @ih texts lines fun other member => hidden other (by simp [member])
    simp only [timed?] at timed
    split at timed
    · obtain ⟨rest, tail, rfl⟩ := Option.map_eq_some_iff.mp timed
      exact List.forall_mem_cons.mpr ⟨rfl, later tail⟩
    · cases texts with
      | nil => cases timed
      | cons text texts =>
        obtain ⟨rest, tail, rfl⟩ := Option.map_eq_some_iff.mp timed
        exact List.forall_mem_cons.mpr ⟨hidden cue (by simp), later tail⟩

theorem addAll_ordered (scene : Scene) (lines : List Line) (bare : scene.lines = []) :
    InFrameOrder (scene.addAll lines).lines := by
  rw [Scene.addAll_eq, bare]
  exact (arranged_lines_iff _).mp (arrange_arranged Line.before_ranks lines)

theorem mem_addAll {scene : Scene} (bare : scene.lines = []) (lines : List Line) (line : Line) :
    line ∈ (scene.addAll lines).lines ↔ line ∈ lines := by
  rw [Scene.addAll_eq, bare]
  exact mem_arrange Line.before lines line

theorem cutsceneOf_proper {entry : String × List Cue} {built : Scene}
    (made : cutsceneOf dialogue entry = .ok built) : built.Proper ∧ built.Loose := by
  obtain ⟨lines, -, rfl⟩ := filled_ok made
  refine ⟨⟨.inl ?_, addAll_ordered _ lines rfl, ?_⟩, ?_⟩
  · rw [Scene.addAll_eq]
    exact ⟨rfl, rfl⟩
  · rw [Scene.addAll_eq]
    intro hint
    cases hint
  · rw [Scene.addAll_eq]
    exact ⟨rfl, rfl⟩

theorem hintOf_proper {entry : String × HintTiming} {built : Scene}
    (made : hintOf dialogue timing language entry = .ok built) : built.Proper ∧ built.Loose := by
  obtain ⟨-, id, lines, read, timed, rfl⟩ := hintOf_ok made
  have natural := HexId.ofValue_nonneg read
  refine ⟨⟨.inr ?_, addAll_ordered _ lines rfl, fun _ line member => ?_⟩, ?_⟩
  · rw [Scene.addAll_eq]
    by_cases zero : id = 0
    · simp [zero]
    · exact .inl ⟨by simp [zero], by simp only; omega⟩
  · refine timed?_onScreen (fun cue there => ?_) timed line ((mem_addAll rfl lines line).mp member)
    obtain ⟨hintCue, -, rfl⟩ := List.mem_map.mp there
    rfl
  · rw [Scene.addAll_eq]
    exact ⟨rfl, rfl⟩

theorem scenesOf_proper {scenes : List Scene}
    (done : scenesOf dialogue timing language = .ok scenes) :
    ∀ scene ∈ scenes, scene.Proper ∧ scene.Loose := by
  obtain ⟨cutscenes, hints, first, second, rfl⟩ := scenesOf_ok done
  intro scene member
  rcases List.mem_append.mp member with inFirst | inSecond
  · obtain ⟨entry, -, made⟩ := mapM_ok_origin first scene inFirst
    exact cutsceneOf_proper made
  · obtain ⟨entry, -, made⟩ := mapM_ok_origin second scene inSecond
    exact hintOf_proper made

end Staging

end Libretto
