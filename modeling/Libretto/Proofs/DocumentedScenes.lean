import Libretto.Proofs.LoadAgreement

/-! Scenes as their documents describe them, without the walk that builds them. The cues of a
scene that are no clear entries take its texts in their order, and the lines that result are
sorted by frame, those of one frame as they stood. -/
namespace Libretto

/-- By frame, lines of one frame as they stood. -/
def byFrame (lines : List Line) : List Line := lines.mergeSort fun a b => a.frame ≤ b.frame

theorem arrange_eq_byFrame (lines : List Line) : arrange Line.before lines = byFrame lines := by
  rw [arrange_eq_mergeSort Line.before_ranks, byFrame]
  congr 1
  funext a b
  simp only [Line.before]
  rw [← decide_not]
  exact decide_eq_decide.mpr Int.not_lt

theorem Scene.addAll_bare (scene : Scene) (bare : scene.lines = []) (lines : List Line) :
    scene.addAll lines = { scene with lines := byFrame lines } := by
  rw [addAll_eq, bare, ← arrange_eq_byFrame]
  rfl

namespace Staging

/-- How many texts cues take. -/
def takers (cues : List Cue) : Nat := cues.countP fun cue => !cue.clear

/-- The line of a cue with so many texts taken before it. -/
def lineOf (speakers : OrderedMap String String) (texts : List String) (taken : Nat) (cue : Cue) :
    Line :=
  if cue.clear then .clear cue.frame
  else ⟨cue.frame, texts.getD taken "", displayName speakers cue.speaker, cue.offscreen⟩

/-- The lines of a scene in the order of its cues. -/
def linesOf (speakers : OrderedMap String String) (cues : List Cue) (texts : List String) :
    List Line :=
  cues.mapIdx fun place cue => lineOf speakers texts (takers (cues.take place)) cue

variable {speakers : OrderedMap String String}

theorem linesOf_clear {cue : Cue} (clear : cue.clear = true) (cues : List Cue)
    (texts : List String) :
    linesOf speakers (cue :: cues) texts = .clear cue.frame :: linesOf speakers cues texts := by
  simp [linesOf, List.mapIdx_cons, lineOf, takers, clear]

theorem linesOf_taking {cue : Cue} (taking : cue.clear = false) (cues : List Cue) (text : String)
    (texts : List String) : linesOf speakers (cue :: cues) (text :: texts) =
      ⟨cue.frame, text, displayName speakers cue.speaker, cue.offscreen⟩ ::
        linesOf speakers cues texts := by
  simp [linesOf, List.mapIdx_cons, lineOf, takers, taking]

/-- Each cue that takes a text takes the next one, until there are no more. -/
theorem timed?_eq (cues : List Cue) (texts : List String) : timed? speakers cues texts =
    if takers cues ≤ texts.length then some (linesOf speakers cues texts) else none := by
  induction cues generalizing texts with
  | nil => simp [timed?, takers, linesOf]
  | cons cue cues ih =>
    cases kind : cue.clear with
    | true =>
      have same : takers (cue :: cues) = takers cues := by simp [takers, kind]
      simp only [timed?, kind, if_true, ih, same, linesOf_clear kind]
      split <;> rfl
    | false =>
      have more : takers (cue :: cues) = takers cues + 1 := by simp [takers, kind]
      cases texts with
      | nil => simp [timed?, kind, more]
      | cons text texts =>
        simp only [timed?, kind, Bool.false_eq_true, if_false, ih, more, List.length_cons,
          Nat.add_le_add_iff_right, linesOf_taking kind]
        split <;> rfl

/-- A cutscene as its documents describe it. -/
def describedCutscene (dialogue : Dialogue) (name : String) (cues : List Cue) : Scene :=
  { name
    lines := byFrame (linesOf dialogue.speakers cues ((dialogue.cutscenes.find? name).getD [])) }

/-- A hint as its documents describe it, with the id that its own stands for. -/
def describedHint (dialogue : Dialogue) (name : String) (hint : HintTiming) (id : Int) : Scene :=
  { name
    kind := if id = 0 then .namedHint else .hint
    id
    lines := byFrame (linesOf dialogue.speakers (hint.cues.map HintCue.toCue)
      ((dialogue.hints.find? name).getD [])) }

/-- What is wrong with two documents that make no scenes. -/
inductive Flawed (dialogue : Dialogue) (timing : Timing) : Prop
  | cutscene {name : String} {cues : List Cue} (timed : (name, cues) ∈ timing.cutscenes.entries)
      (short : ((dialogue.cutscenes.find? name).getD []).length < takers cues)
  | hint {name : String} {hint : HintTiming} (timed : (name, hint) ∈ timing.hints.entries)
      (short : ((dialogue.hints.find? name).getD []).length <
        takers (hint.cues.map HintCue.toCue))
  | id {name : String} {hint : HintTiming} (timed : (name, hint) ∈ timing.hints.entries)
      (unread : HexId.read? hint.id = none)
  | shared {name : String} (cutscene : name ∈ timing.cutscenes.keys)
      (hint : name ∈ timing.hints.keys)

theorem filled_eq (part : Part) (cues : List Cue) (texts : List String) (scene : Scene)
    (bare : scene.lines = []) : filled speakers part cues texts scene =
      if takers cues ≤ texts.length then
        .ok { scene with lines := byFrame (linesOf speakers cues texts) }
      else .error (.missingTexts part scene.name texts.length) := by
  rw [filled, timed?_eq]
  by_cases enough : takers cues ≤ texts.length
  · simp only [enough, if_true, Scene.addAll_bare scene bare]
  · simp only [enough, if_false]

theorem ofValue_eq (text : String) : HexId.ofValue (.str text) =
    match HexId.read? text with
    | some id => .ok id
    | none => .error (.invalidHexId (.str text)) := rfl

variable {dialogue : Dialogue} {timing : Timing} {language : Int}

theorem cutsceneOf_fails {entry : String × List Cue} {fault : Fault}
    (timed : entry ∈ timing.cutscenes.entries) (failed : cutsceneOf dialogue entry = .error fault) :
    Flawed dialogue timing := by
  rw [cutsceneOf, filled_eq _ _ _ _ rfl] at failed
  split at failed
  · cases failed
  next more => exact .cutscene timed (Nat.lt_of_not_le more)

theorem cutsceneOf_described {entry : String × List Cue} {scene : Scene}
    (made : cutsceneOf dialogue entry = .ok scene) :
    takers entry.2 ≤ ((dialogue.cutscenes.find? entry.1).getD []).length ∧
      scene = describedCutscene dialogue entry.1 entry.2 := by
  rw [cutsceneOf, filled_eq _ _ _ _ rfl] at made
  split at made
  next enough =>
    cases made
    exact ⟨enough, rfl⟩
  · cases made

theorem hintOf_eq {entry : String × HintTiming} (apart : timing.cutscenes.contains entry.1 = false)
    {id : Nat} (read : HexId.read? entry.2.id = some id) :
    hintOf dialogue timing language entry =
      if takers (entry.2.cues.map HintCue.toCue) ≤
          ((dialogue.hints.find? entry.1).getD []).length then
        .ok (describedHint dialogue entry.1 entry.2 id)
      else .error (.missingTexts .hint entry.1 ((dialogue.hints.find? entry.1).getD []).length) := by
  simp only [hintOf, apart, Bool.false_eq_true, if_false, ofValue_eq, read, bind, Except.bind]
  exact filled_eq _ _ _ _ rfl

theorem hintOf_unread {entry : String × HintTiming}
    (apart : timing.cutscenes.contains entry.1 = false)
    (unread : HexId.read? entry.2.id = none) :
    hintOf dialogue timing language entry = .error (.invalidHexId (.str entry.2.id)) := by
  simp only [hintOf, apart, Bool.false_eq_true, if_false, ofValue_eq, unread, bind, Except.bind]

theorem hintOf_fails {entry : String × HintTiming} {fault : Fault}
    (timed : entry ∈ timing.hints.entries)
    (failed : hintOf dialogue timing language entry = .error fault) : Flawed dialogue timing := by
  cases shared : timing.cutscenes.contains entry.1 with
  | true =>
    exact .shared ((timing.cutscenes.contains_iff _).mp shared) (List.mem_map_of_mem timed)
  | false =>
    cases read : HexId.read? entry.2.id with
    | none => exact .id timed read
    | some id =>
      rw [hintOf_eq shared read] at failed
      split at failed
      · cases failed
      next more => exact .hint timed (Nat.lt_of_not_le more)

theorem hintOf_described {entry : String × HintTiming} {scene : Scene}
    (made : hintOf dialogue timing language entry = .ok scene) :
    entry.1 ∉ timing.cutscenes.keys ∧
      takers (entry.2.cues.map HintCue.toCue) ≤
        ((dialogue.hints.find? entry.1).getD []).length ∧
      ∃ id : Nat, HexId.read? entry.2.id = some id ∧
        scene = describedHint dialogue entry.1 entry.2 id := by
  cases shared : timing.cutscenes.contains entry.1 with
  | true =>
    simp only [hintOf, shared, if_true] at made
    cases made
  | false =>
    cases read : HexId.read? entry.2.id with
    | none =>
      rw [hintOf_unread shared read] at made
      cases made
    | some id =>
      rw [hintOf_eq shared read] at made
      split at made
      next enough =>
        cases made
        refine ⟨fun there => ?_, enough, id, rfl, rfl⟩
        rw [(timing.cutscenes.contains_iff entry.1).mpr there] at shared
        cases shared
      · cases made

/-- Documents without a flaw make scenes, and no others do. -/
theorem scenesOf_fails_iff :
    (∃ fault, scenesOf dialogue timing language = .error fault) ↔ Flawed dialogue timing := by
  constructor
  · rintro ⟨fault, failed⟩
    unfold scenesOf at failed
    cases first : timing.cutscenes.entries.mapM (cutsceneOf dialogue) with
    | error cause =>
      obtain ⟨entry, timed, own⟩ := mapM_error_origin first
      exact cutsceneOf_fails timed own
    | ok cutscenes =>
      cases second : timing.hints.entries.mapM (hintOf dialogue timing language) with
      | error cause =>
        obtain ⟨entry, timed, own⟩ := mapM_error_origin second
        exact hintOf_fails timed own
      | ok hints => simp [first, second, bind, Except.bind] at failed
  · intro flawed
    cases outcome : scenesOf dialogue timing language with
    | error fault => exact ⟨fault, rfl⟩
    | ok scenes =>
      exfalso
      obtain ⟨cutscenes, hints, first, second, -⟩ := scenesOf_ok outcome
      cases flawed with
      | cutscene timed short =>
        obtain ⟨scene, -, made⟩ := mapM_ok_each first _ timed
        exact Nat.not_le_of_lt short (cutsceneOf_described made).1
      | hint timed short =>
        obtain ⟨scene, -, made⟩ := mapM_ok_each second _ timed
        exact Nat.not_le_of_lt short (hintOf_described made).2.1
      | id timed unread =>
        obtain ⟨scene, -, made⟩ := mapM_ok_each second _ timed
        obtain ⟨-, -, id, read, -⟩ := hintOf_described made
        cases unread.symm.trans read
      | shared cutscene hint =>
        obtain ⟨⟨name, own⟩, timed, rfl⟩ := List.mem_map.mp hint
        obtain ⟨scene, -, made⟩ := mapM_ok_each second _ timed
        exact (hintOf_described made).1 cutscene

/-- The scenes that documents make are those that they describe. -/
theorem scenesOf_described {scenes : List Scene}
    (done : scenesOf dialogue timing language = .ok scenes) :
    (∀ name cues, timing.cutscenes.find? name = some cues →
      describedCutscene dialogue name cues ∈ scenes) ∧
    ∀ name hint, timing.hints.find? name = some hint → ∃ id : Nat, HexId.read? hint.id = some id ∧
      describedHint dialogue name hint id ∈ scenes := by
  obtain ⟨cutscenes, hints, first, second, rfl⟩ := scenesOf_ok done
  constructor
  · intro name cues timed
    obtain ⟨scene, member, made⟩ :=
      mapM_ok_each first _ ((timing.cutscenes.find?_eq_some_iff name cues).mp timed)
    obtain ⟨-, rfl⟩ := cutsceneOf_described made
    exact List.mem_append_left _ member
  · intro name hint timed
    obtain ⟨scene, member, made⟩ :=
      mapM_ok_each second _ ((timing.hints.find?_eq_some_iff name hint).mp timed)
    obtain ⟨-, -, id, read, rfl⟩ := hintOf_described made
    exact ⟨id, read, List.mem_append_right _ member⟩

end Staging

namespace Desk
open Staging (Flawed describedCutscene describedHint)

/-- A load into a language that has no script fails if its documents have a flaw or nothing can
be said of the language, and for no other reason. Otherwise it makes the scenes that the
documents describe, and these only. -/
theorem stage_makes_described_scenes (dialogue : Dialogue) (timing : Timing) {source : ScriptSource}
    (json : source.format = .json) (spoken : 0 ≤ source.language) {desk : Desk}
    (absent : desk.store.script? source.language = none) (audience : Option Audience)
    (replace : Bool) :
    let loaded := stage audience dialogue timing source replace desk
    ((∃ fault, loaded.result = .error fault) ↔
      Flawed dialogue timing ∨ Numeral.isWritable source.language = false) ∧
    ∀ script, loaded.result = .ok script →
      loaded.state.store.script? source.language = some script ∧
      (∀ name, name ∈ script.scenes.keys ↔
        name ∈ timing.cutscenes.keys ∨ name ∈ timing.hints.keys) ∧
      (∀ name cues, timing.cutscenes.find? name = some cues →
        script.scenes.find? name = some (describedCutscene dialogue name cues)) ∧
      ∀ name hint, timing.hints.find? name = some hint → ∃ id : Nat,
        HexId.read? hint.id = some id ∧
        script.scenes.find? name = some (describedHint dialogue name hint id) := by
  intro loaded
  have admission : built dialogue timing source =
      Staging.scenesOf dialogue timing source.language := built_json json spoken _ _
  have result : loaded.result = admitted dialogue timing source replace desk.store :=
    stage_result audience
  constructor
  · rw [result, ← Staging.scenesOf_fails_iff]
    unfold admitted
    rw [admission]
    cases Staging.scenesOf dialogue timing source.language with
    | error fault => simp [bind, Except.bind]
    | ok scenes =>
      simp only [bind, Except.bind, Staging.accepted_new absent]
      cases writable : Numeral.isWritable source.language <;> simp [written, writable]
  · intro script succeeded
    have done := result.symm.trans succeeded
    obtain ⟨scenes, scenesAt, accepted⟩ := admitted_ok done
    rw [admission] at scenesAt
    have distinct := Staging.scenesOf_distinct scenesAt
    obtain ⟨cutscenes, hints⟩ := Staging.scenesOf_described scenesAt
    obtain ⟨-, -, rfl⟩ := Staging.accepted_ok accepted
    rw [Staging.ground_new absent] at done ⊢
    refine ⟨?_, fun name => ?_, fun name cues timed => ?_, fun name hint timed => ?_⟩
    · have state := (stage_admitted audience done).2
      rw [state, ScriptStore.script?_putScript, Script.overrideAll_language]
      exact if_pos rfl
    · rw [← OrderedMap.contains_iff, ← List.mem_append, ← Staging.scenesOf_names scenesAt,
        List.mem_map]
      exact freshScript_hasScene distinct desk.store.audience name
    · rw [Staging.freshScript_scenes distinct]
      exact Script.find?_name distinct (cutscenes name cues timed)
    · obtain ⟨id, read, member⟩ := hints name hint timed
      refine ⟨id, read, ?_⟩
      rw [Staging.freshScript_scenes distinct]
      exact Script.find?_name distinct member

/-- Cues that cross a clear entry and leave a text over, and a hint with an id. -/
theorem crossed_cues_make_described_scenes :
    let dialogue : Dialogue :=
      { speakers := .ofList [("jak", "Jak")]
        cutscenes := .ofList [("a", ["one", "two", "three"])]
        hints := .ofList [("h", ["hi"])] }
    let timing : Timing :=
      { cutscenes := .ofList [("a", [{ frame := 9, speaker := "jak", offscreen := true },
          { frame := 3, clear := true }, { frame := 3, speaker := "daxter" }])]
        hints := .ofList [("h", { id := " 0X1f", cues := [{ frame := 1 }] })] }
    let loaded := stage none dialogue timing { language := 0 } false ⟨.new none none, []⟩
    ∃ script, loaded.result = .ok script ∧
      script.scenes.find? "a" = some { name := "a", lines :=
        [.clear 3, ⟨3, "two", "daxter", false⟩, ⟨9, "one", "Jak", true⟩] } ∧
      script.scenes.find? "h" = some
        { name := "h", kind := .hint, id := 31, lines := [⟨1, "hi", "", false⟩] } := by
  intro dialogue timing loaded
  have json : ({ language := 0 } : ScriptSource).format = .json := rfl
  have absent : (⟨.new none none, []⟩ : Desk).store.script? 0 = none := rfl
  obtain ⟨-, makes⟩ :=
    stage_makes_described_scenes dialogue timing json (Int.le_refl 0) absent none false
  obtain ⟨script, result⟩ := ok_of_toBool (by decide +kernel : loaded.result.toBool = true)
  obtain ⟨-, -, cutscenes, hints⟩ := makes script result
  obtain ⟨id, read, hint⟩ := hints "h" _ rfl
  have known : HexId.read? " 0X1f" = some 31 := by decide
  cases known.symm.trans read
  refine ⟨script, result, (cutscenes "a" _ rfl).trans ?_, hint.trans ?_⟩
  · rw [describedCutscene, ← arrange_eq_byFrame]
    decide
  · rw [describedHint, ← arrange_eq_byFrame]
    decide

/-- Nothing is wrong with these documents, and yet there is no script for such a language. -/
theorem unwritable_language_makes_no_scenes :
    let dialogue : Dialogue := { hints := .ofList [("h", ["hi"])] }
    let timing : Timing := { hints := .ofList [("h", { id := "1", cues := [{ frame := 0 }] })] }
    let source : ScriptSource := { language := Nat.pow 10 Numeral.decimalLimit }
    source.format = .json ∧ 0 ≤ source.language ∧ ¬ Flawed dialogue timing ∧
      (stage none dialogue timing source false ⟨.new none none, []⟩).result =
        .error .unwritableInteger := by
  intro dialogue timing source
  have spoken : 0 ≤ source.language := Int.natCast_nonneg _
  have huge : Numeral.isWritable source.language = false := Numeral.isWritable_bound
  have made : Staging.scenesOf dialogue timing source.language = .ok
      [{ name := "h", kind := .hint, id := 1, lines := [⟨0, "hi", "", false⟩] }] := rfl
  refine ⟨rfl, spoken, fun flawed => ?_, ?_⟩
  · obtain ⟨fault, failed⟩ := Staging.scenesOf_fails_iff.mpr flawed
    cases made.symm.trans failed
  · rw [stage_result, admitted_blank rfl, built_json rfl spoken, made]
    simp only [Except.bind, written_error huge]

end Desk

end Libretto
