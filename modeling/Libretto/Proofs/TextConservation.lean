import Libretto.Proofs.DocumentForms
import Libretto.Proofs.Warnings

/-! No text of a dialogue is lost without a word. Those that the cues of a scene take are in the
scene, each once, and for all others there is a warning: one for a scene that has no timing, and
one with the number of texts that the cues of a scene leave over. -/
namespace Libretto

/-- A warning that is not about a speaker. -/
def Entry.tellsLoss (entry : Entry) : Bool :=
  match entry.warning? with
  | none | some (.unknownSpeaker _) => false
  | some _ => true

/-- The warnings of a journal that are not about speakers. -/
def losses (journal : List Entry) : List Entry := journal.filter Entry.tellsLoss

theorem losses_append (first later : List Entry) :
    losses (first ++ later) = losses first ++ losses later := List.filter_append ..

/-- What warns of speakers at most tells of no loss. -/
theorem losses_eq_nil {journal : List Entry}
    (speakers : ∀ notice ∈ warnings journal, ∃ key, notice = .unknownSpeaker key) :
    losses journal = [] := by
  refine List.filter_eq_nil_iff.mpr fun entry there tells => ?_
  unfold Entry.tellsLoss at tells
  split at tells
  · cases tells
  · cases tells
  next notice other found =>
    obtain ⟨key, rfl⟩ := speakers notice (List.mem_filterMap.mpr ⟨entry, there, found⟩)
    exact other key rfl

/-- A notice that warns of texts. -/
def Notice.IsLoss : Notice → Prop
  | untimedScene _ _ | untimedTexts _ _ _ => True
  | _ => False

theorem losses_reportTo (audience : Option Audience) {notice : Notice} (loss : notice.IsLoss) :
    losses (reportTo audience notice) = reportTo audience notice := by
  have tells : (Entry.log notice).tellsLoss = true ∧
      (Entry.event (.report notice)).tellsLoss = true := by
    cases notice <;> first | exact ⟨rfl, rfl⟩ | cases loss
  rcases audience with _ | ⟨recorder, loggers⟩
  · simp [reportTo, losses, tells]
  · cases recorder <;> cases loggers <;> simp [reportTo, announce, losses, tells]

namespace Edit
variable {σ τ α β γ : Type} {audience : Option Audience} {lost more : List Notice}

/-- If the edit gets to its end, these are the losses that it has told. -/
def Loses (audience : Option Audience) (lost : List Notice) (edit : Edit σ α) : Prop :=
  ∀ state value, (edit state).result = .ok value →
    losses (edit state).journal = lost.flatMap (reportTo audience)

namespace Loses

theorem of_warns {edit : Edit σ α}
    (warns : edit.WarnsOf fun notice => ∃ key, notice = .unknownSpeaker key) :
    edit.Loses audience [] := fun state _ _ => losses_eq_nil (warns state)

theorem fail (fault : Fault) : (Edit.fail fault : Edit σ α).Loses audience lost :=
  fun _ _ done => nomatch done

theorem report {notice : Notice} (loss : notice.IsLoss) :
    (Edit.report audience notice : Edit σ Unit).Loses audience [notice] := by
  intro state value _
  rw [List.flatMap_singleton]
  exact losses_reportTo audience loss

theorem bind {first : Edit σ α} {next : α → Edit σ β} (head : first.Loses audience lost)
    (tail : ∀ value, (next value).Loses audience more) :
    (first >>= next).Loses audience (lost ++ more) := by
  intro state last done
  rw [run_bind] at done ⊢
  cases result : (first state).result with
  | error fault =>
    rw [result] at done
    cases done
  | ok value =>
    rw [result] at done
    dsimp only
    rw [losses_append, head state value result, tail value _ last done, List.flatMap_append]

theorem mapM {step : γ → Edit σ α} {lost : γ → List Notice} {items : List γ}
    (each : ∀ item ∈ items, (step item).Loses audience (lost item)) :
    (items.mapM step).Loses audience (items.flatMap lost) := by
  induction items with
  | nil => exact .of_warns (.pure [])
  | cons item items ih =>
    rw [List.mapM_cons, List.flatMap_cons]
    have rest : (items.mapM step).Loses audience (items.flatMap lost) :=
      ih fun other there => each other (List.mem_cons_of_mem _ there)
    refine .bind (each item List.mem_cons_self) fun value => ?_
    have last (values : List α) : (Pure.pure (value :: values) : Edit σ (List α)).Loses audience [] :=
      .of_warns (.pure _)
    simpa using rest.bind last

theorem forM {step : γ → Edit σ Unit} {lost : γ → List Notice} {items : List γ}
    (each : ∀ item ∈ items, (step item).Loses audience (lost item)) :
    (items.forM step).Loses audience (items.flatMap lost) := by
  induction items with
  | nil => exact .of_warns (.pure ())
  | cons item items ih =>
    rw [List.flatMap_cons]
    exact .bind (each item List.mem_cons_self) fun _ =>
      ih fun other there => each other (List.mem_cons_of_mem _ there)

theorem within {part : σ → τ} {replace : τ → σ → σ} {edit : Edit τ α}
    (loses : edit.Loses audience lost) : (Edit.within part replace edit).Loses audience lost :=
  fun state => loses (part state)

end Loses

end Edit

namespace Staging
variable {audience : Option Audience} {speakers : OrderedMap String String}

/-- The scenes that have texts and no timing, by name. -/
def untimed (texts timed : List String) : List String :=
  (texts.filter (· ∉ timed)).mergeSort fun a b => a ≤ b

/-- The texts of a scene that its cues leave over. -/
def surplus (part : Part) (name : String) (cues : List Cue) (texts : List String) : List Notice :=
  if takers cues < texts.length then [.untimedTexts part name (texts.length - takers cues)] else []

/-- What there is to tell of texts that come into no scene. -/
def lostTexts (dialogue : Dialogue) (timing : Timing) : List Notice :=
  (untimed dialogue.cutscenes.keys timing.cutscenes.keys).map (.untimedScene .cutscene) ++
  (untimed dialogue.hints.keys timing.hints.keys).map (.untimedScene .hint) ++
  (timing.cutscenes.entries.flatMap fun (name, cues) =>
    surplus .cutscene name cues ((dialogue.cutscenes.find? name).getD [])) ++
  timing.hints.entries.flatMap fun (name, hint) =>
    surplus .hint name (hint.cues.map HintCue.toCue) ((dialogue.hints.find? name).getD [])

theorem arrange_eq_byName (names : List String) :
    arrange byName names = names.mergeSort fun a b => a ≤ b := by
  rw [arrange_eq_mergeSort byName_ranks]
  congr 1
  funext a b
  rw [byName, ← decide_not]
  exact decide_eq_decide.mpr String.not_lt

/-- Induction on the cues: a clear entry takes nothing, and of the others each takes one text
off the rest. -/
theorem fill_loses (part : Part) (total : Nat) (cues : List Cue) (texts : List String)
    (scene : Scene) : (fill audience speakers part total cues texts scene).Loses audience
      (surplus part scene.name cues texts) := by
  induction cues generalizing texts scene with
  | nil =>
    have last : (Pure.pure scene : Edit (List String) Scene).Loses audience [] :=
      .of_warns (.pure scene)
    by_cases more : 0 < texts.length
    · simp only [fill, surplus, takers, List.countP_nil, Nat.sub_zero, gt_iff_lt, more, if_true]
      have told : (Notice.untimedTexts part scene.name texts.length).IsLoss := trivial
      exact Edit.Loses.bind (.report told) fun _ => last
    · simpa only [fill, surplus, takers, List.countP_nil, gt_iff_lt, more, if_false] using last
  | cons cue cues ih =>
    cases kind : cue.clear with
    | true =>
      have same : takers (cue :: cues) = takers cues := by simp [takers, kind]
      simp only [fill, kind, if_true, surplus, same]
      exact ih texts (scene.add (.clear cue.frame))
    | false =>
      cases texts with
      | nil =>
        simp only [fill, kind, Bool.false_eq_true, if_false]
        exact .fail _
      | cons text texts =>
        have one : takers (cue :: cues) = takers cues + 1 := by simp [takers, kind]
        simp only [fill, kind, Bool.false_eq_true, if_false, surplus, one, List.length_cons,
          Nat.add_lt_add_iff_right, Nat.add_sub_add_right]
        have named : (speakerName audience speakers cue.speaker).Loses audience [] :=
          .of_warns ((speakerName_warns cue.speaker).mono fun notice told => ⟨_, told.1⟩)
        exact named.bind fun speaker => ih texts _

theorem reportUntimed_loses (part : Part) (texts timed : List String) :
    (reportUntimed audience part texts timed : Edit σ Unit).Loses audience
      ((untimed texts timed).map (.untimedScene part)) := by
  unfold reportUntimed
  rw [arrange_eq_byName, ← untimed, List.map_eq_flatMap]
  exact .forM fun name _ => .report trivial

theorem scenes_lose (dialogue : Dialogue) (timing : Timing) (language : Int) :
    (scenes audience dialogue timing language).Loses audience
      ((timing.cutscenes.entries.flatMap fun (name, cues) =>
        surplus .cutscene name cues ((dialogue.cutscenes.find? name).getD [])) ++
      timing.hints.entries.flatMap fun (name, hint) => surplus .hint name
        (hint.cues.map HintCue.toCue) ((dialogue.hints.find? name).getD [])) := by
  have last (scenes : List Scene) :
      (Pure.pure scenes : Edit (List String) (List Scene)).Loses audience [] :=
    .of_warns (.pure scenes)
  refine .bind (.mapM fun (name, cues) _ => fill_loses _ _ _ _ _) fun cutscenes => ?_
  rw [← List.append_nil (List.flatMap _ timing.hints.entries)]
  refine .bind (.mapM fun (name, hint) _ => ?_) fun hints => last _
  dsimp only
  split
  · exact .fail _
  · have read (id : Except Fault Int) : (Edit.ofExcept id : Edit (List String) Int).Loses
        audience [] := .of_warns (.ofExcept id)
    exact (read _).bind fun id => fill_loses _ _ _ _ _

/-- The texts of all lines are those taken, and nothing for each clear entry. -/
theorem linesOf_texts (cues : List Cue) (texts : List String)
    (enough : takers cues ≤ texts.length) :
    ((linesOf speakers cues texts).map Line.text).Perm
      (texts.take (takers cues) ++ List.replicate (cues.length - takers cues) "") := by
  induction cues generalizing texts with
  | nil => simp [linesOf, takers]
  | cons cue cues ih =>
    cases kind : cue.clear with
    | true =>
      have same : takers (cue :: cues) = takers cues := by simp [takers, kind]
      have fewer : takers cues ≤ cues.length := List.countP_le_length
      have more : (cue :: cues).length - takers cues = cues.length - takers cues + 1 := by
        rw [List.length_cons]
        omega
      rw [same] at enough ⊢
      rw [linesOf_clear kind, List.map_cons, more, List.replicate_succ]
      exact ((ih texts enough).cons "").trans List.perm_middle.symm
    | false =>
      have one : takers (cue :: cues) = takers cues + 1 := by simp [takers, kind]
      rw [one] at enough ⊢
      cases texts with
      | nil => cases enough
      | cons text texts =>
        rw [linesOf_taking kind, List.map_cons, List.take_succ_cons, List.length_cons,
          Nat.add_sub_add_right, List.cons_append]
        exact (ih texts (Nat.le_of_succ_le_succ enough)).cons text

/-- The scene holds the first texts of its own, as many as its cues take, each once; for every
clear entry there is a line without text. -/
structure Places (cues : List Cue) (texts : List String) (scene : Scene) : Prop where
  enough : takers cues ≤ texts.length
  placed : (scene.lines.map Line.text).Perm
    (texts.take (takers cues) ++ List.replicate (cues.length - takers cues) "")

theorem Places.of_lines {cues : List Cue} {texts : List String} {scene : Scene}
    (enough : takers cues ≤ texts.length)
    (lines : scene.lines = byFrame (linesOf speakers cues texts)) : Places cues texts scene := by
  refine ⟨enough, ?_⟩
  rw [lines]
  exact ((List.mergeSort_perm _ _).map Line.text).trans (linesOf_texts cues texts enough)

end Staging

namespace Desk
open Staging (Places surplus lostTexts)

variable {audience : Option Audience} {dialogue : Dialogue} {timing : Timing}
  {source : ScriptSource} {replace : Bool} {desk : Desk} {script : Script}

theorem stage_loses : (stage audience dialogue timing source replace).Loses audience
    (lostTexts dialogue timing) := by
  have admitted : (Edit.ofExcept (admission source) : Edit Desk Unit).Loses audience [] :=
    .of_warns (.ofExcept _)
  have concluded (scenes : List Scene) :
      (concluded audience source replace scenes).Loses audience [] :=
    .of_warns (concluded_warns audience source replace scenes)
  have prepared : (prepared audience dialogue timing source).Loses audience _ :=
    admitted.bind fun _ => .bind (Staging.reportUntimed_loses _ _ _) fun _ =>
      .bind (Staging.reportUntimed_loses _ _ _) fun _ =>
        .within (Staging.scenes_lose dialogue timing source.language)
  rw [stage_eq]
  simpa only [lostTexts, List.nil_append, List.append_nil, List.append_assoc] using
    prepared.bind concluded

/-- A script that is made where there was none holds its scenes as they were built. -/
theorem stage_built (absent : desk.store.script? source.language = none)
    (done : (stage audience dialogue timing source replace desk).result = .ok script) :
    ∃ scenes, Staging.scenesOf dialogue timing source.language = .ok scenes ∧
      ∀ scene ∈ scenes, script.scenes.find? scene.name = some scene := by
  rw [stage_result] at done
  obtain ⟨scenes, built, accepted⟩ := admitted_ok done
  have made := (built_ok built).2.2
  have distinct := Staging.scenesOf_distinct made
  obtain ⟨-, -, rfl⟩ := Staging.accepted_ok accepted
  refine ⟨scenes, made, fun scene there => ?_⟩
  rw [Staging.ground_new absent, Staging.freshScript_scenes distinct]
  exact Script.find?_name distinct there

/-- When a load makes a script, the scene of each timing holds the first texts that the dialogue
has for it, as many as its cues take and each once. The warnings that are not about speakers tell
of all other texts, in this order: the cutscenes and then the hints without timing, each by name,
and then, as the timing has them, the cutscenes and the hints whose cues leave texts over. -/
theorem no_text_is_lost_silently (absent : desk.store.script? source.language = none)
    (done : (stage audience dialogue timing source replace desk).result = .ok script) :
    (∀ name cues, timing.cutscenes.find? name = some cues → ∃ scene,
      script.scenes.find? name = some scene ∧
      Places cues ((dialogue.cutscenes.find? name).getD []) scene) ∧
    (∀ name hint, timing.hints.find? name = some hint → ∃ scene,
      script.scenes.find? name = some scene ∧
      Places (hint.cues.map HintCue.toCue) ((dialogue.hints.find? name).getD []) scene) ∧
    losses (stage audience dialogue timing source replace desk).journal =
      (lostTexts dialogue timing).flatMap (reportTo audience) := by
  obtain ⟨scenes, made, held⟩ := stage_built absent done
  obtain ⟨cutscenes, hints, first, second, rfl⟩ := Staging.scenesOf_ok made
  refine ⟨fun name cues timed => ?_, fun name hint timed => ?_, stage_loses desk script done⟩
  · obtain ⟨scene, there, own⟩ :=
      mapM_ok_each first _ ((timing.cutscenes.find?_eq_some_iff name cues).mp timed)
    obtain ⟨enough, rfl⟩ := Staging.cutsceneOf_described own
    exact ⟨_, held _ (List.mem_append_left _ there), .of_lines enough rfl⟩
  · obtain ⟨scene, there, own⟩ :=
      mapM_ok_each second _ ((timing.hints.find?_eq_some_iff name hint).mp timed)
    obtain ⟨-, enough, id, -, rfl⟩ := Staging.hintOf_described own
    exact ⟨_, held _ (List.mem_append_right _ there), .of_lines enough rfl⟩

/-- Two texts are left over, one scene has no timing, and a name is in the wrong section. -/
theorem leftover_texts_are_all_told :
    let dialogue : Dialogue :=
      { cutscenes := .ofList [("z", []), ("a", ["one", "", "three", "four"]), ("h", ["hi"])]
        hints := .ofList [("a", ["lost"])] }
    let timing : Timing :=
      { cutscenes := .ofList [("a", [{ frame := 9, speaker := "jak" }, { frame := 3, clear := true },
          { frame := 3 }])]
        hints := .ofList [("h", {})] }
    let audience : Option Audience := some ⟨true, true⟩
    let loaded := stage audience dialogue timing { language := 0 } false ⟨.new none none, []⟩
    ∃ script, loaded.result = .ok script ∧
      (∃ scene, script.scenes.find? "a" = some scene ∧
        (scene.lines.map Line.text).Perm ["one", "", ""]) ∧
      (∃ scene, script.scenes.find? "h" = some scene ∧ scene.lines.map Line.text = []) ∧
      losses loaded.journal = [.untimedScene .cutscene "h", .untimedScene .cutscene "z",
        .untimedScene .hint "a", .untimedTexts .cutscene "a" 2].flatMap (reportTo audience) := by
  intro dialogue timing audience loaded
  have absent : (⟨.new none none, []⟩ : Desk).store.script? 0 = none := rfl
  obtain ⟨script, result⟩ := ok_of_toBool (by decide +kernel : loaded.result.toBool = true)
  obtain ⟨cutscenes, hints, told⟩ := no_text_is_lost_silently absent result
  obtain ⟨scene, found, places⟩ := cutscenes "a" _ rfl
  obtain ⟨hint, known, bare⟩ := hints "h" _ rfl
  have lost : lostTexts dialogue timing = [.untimedScene .cutscene "h", .untimedScene .cutscene "z",
      .untimedScene .hint "a", .untimedTexts .cutscene "a" 2] := by
    simp only [lostTexts, Staging.untimed, ← Staging.arrange_eq_byName]
    decide +kernel
  refine ⟨script, result, ⟨scene, found, places.placed⟩, ⟨hint, known, ?_⟩, lost ▸ told⟩
  exact bare.placed.eq_nil

end Desk

end Libretto
