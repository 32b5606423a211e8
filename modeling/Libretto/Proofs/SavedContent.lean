import Libretto.Proofs.TextDocuments
import Libretto.Proofs.Transcription
import Libretto.Proofs.DocumentForms

/-! Saved documents show content and nothing of its history. Tables and scripts keep their entries
in the order in which they came, but they are written in the order of ids and of names, so that
whatever holds the same is written the same. Of the speakers the order counts only where several
keys have one name: the last of them is the one that the name is turned back into. -/
namespace Libretto

theorem byId_antisymm {a b : Int} (first : byId a b = false) (second : byId b a = false) : a = b := by
  simp only [byId, decide_eq_false_iff_not] at first second
  omega

theorem byName_antisymm {a b : String} (first : byName a b = false) (second : byName b a = false) :
    a = b := by
  simp only [byName, decide_eq_false_iff_not, String.not_lt] at first second
  exact String.le_antisymm second first

namespace OrderedMap
variable {κ ν : Type} {before : κ → κ → Bool}

/-- Where keys are told apart, the sorted view shows what is found and no more. -/
theorem sorted_congr [DecidableEq κ] (ranks : Ranks before)
    (antisymm : ∀ {x y}, before x y = false → before y x = false → x = y)
    {a b : OrderedMap κ ν} (same : ∀ key, a.find? key = b.find? key) :
    a.sorted before = b.sorted before := by
  have byKey : Ranks fun x y : κ × ν => before x.1 y.1 := ranks.comap
  refine arrange_perm_eq byKey (entries_perm same) ?_
  rintro ⟨key, value⟩ here ⟨other, more⟩ there late early
  obtain rfl : key = other := antisymm late early
  rw [← find?_eq_some_iff] at here there
  rw [Option.some.inj (here.symm.trans there)]

end OrderedMap

theorem TextTable.document_congr {a b : TextTable}
    (same : ∀ id, a.lines.find? id = b.lines.find? id) : a.document = b.document := by
  have lines : a.inOrder = b.inOrder := OrderedMap.sorted_congr byId_ranks byId_antisymm same
  rw [document_eq, document_eq, compose, compose, lines]

/-- Scenes of which the same is written. Their names and their groups have no part in it. -/
structure Scene.WrittenAlike (a b : Scene) : Prop where
  kind : a.kind = b.kind
  id : a.id = b.id
  lines : a.lines = b.lines

/-- Scripts that have scenes that are written alike under the same names. -/
def Script.WrittenAlike (a b : Script) : Prop :=
  ∀ name, Option.Rel Scene.WrittenAlike (a.scenes.find? name) (b.scenes.find? name)

/-- Speakers that go by the same names, and names that are turned back into the same keys. -/
structure SameSpeakers (a b : OrderedMap String String) : Prop where
  names : ∀ key, a.find? key = b.find? key
  keys : ∀ name, (speakerKeys a).find? name = (speakerKeys b).find? name

/-- As much of a scene as is written. -/
def Scene.bare (scene : Scene) : Scene :=
  { kind := scene.kind, id := scene.id, lines := scene.lines }

theorem Scene.WrittenAlike.bare {a b : Scene} (same : a.WrittenAlike b) : a.bare = b.bare := by
  obtain ⟨kind, id, lines⟩ := same
  simp only [Scene.bare, kind, id, lines]

namespace Transcript
variable {keys others : OrderedMap String String}

/-- Both documents as they are written. -/
def documents (transcript : Transcript) : Value × Value :=
  (transcript.dialogue.toValue, transcript.timing.toValue)

/-- Transcripts that differ in the order of the speakers at most. -/
structure Alike (a b : Transcript) : Prop where
  speakers : ∀ key, a.dialogue.speakers.find? key = b.dialogue.speakers.find? key
  cutscenes : a.dialogue.cutscenes = b.dialogue.cutscenes
  hints : a.dialogue.hints = b.dialogue.hints
  timing : a.timing = b.timing

variable {a b : Transcript}

theorem Alike.documents_eq (alike : a.Alike b) : a.documents = b.documents := by
  obtain ⟨speakers, cutscenes, hints, timing⟩ := alike
  have sorted := OrderedMap.sorted_congr byName_ranks byName_antisymm speakers
  simp only [Transcript.documents, Dialogue.toValue, sorted, cutscenes, hints, timing]

/-- Keys are looked up by name and in no other way. -/
theorem added_congr (same : ∀ name, keys.find? name = others.find? name) :
    added keys = added others := by
  have key : speakerKey keys = speakerKey others := by
    funext speaker
    rw [speakerKey, speakerKey, same]
  have credit : creditSpeaker keys = creditSpeaker others := by
    funext speakers line
    rw [creditSpeaker, creditSpeaker, OrderedMap.contains, OrderedMap.contains, same]
  have cue : Line.cue keys = Line.cue others := by
    funext line
    rw [Line.cue, Line.cue, key]
  have hintCue : Line.hintCue keys = Line.hintCue others := by
    funext line
    rw [Line.hintCue, Line.hintCue, key]
  funext transcript entry
  simp only [added, addCutscene, addHint, Transcript.credit, credit, cue, hintCue]

theorem creditSpeaker_alike {speakers more : OrderedMap String String}
    (same : ∀ key, speakers.find? key = more.find? key) (line : Line) (key : String) :
    (creditSpeaker keys speakers line).find? key = (creditSpeaker keys more line).find? key := by
  have known : speakers.contains line.speaker = more.contains line.speaker := by
    rw [OrderedMap.contains, OrderedMap.contains, same]
  unfold creditSpeaker OrderedMap.insertNew
  rw [known]
  split
  · exact same key
  · split
    · exact same key
    · rw [OrderedMap.find?_insert, OrderedMap.find?_insert, same]

theorem Alike.credit (alike : a.Alike b) (scene : Scene) :
    (a.credit keys scene).Alike (b.credit keys scene) := by
  have credited (lines : List Line) (speakers more : OrderedMap String String)
      (same : ∀ key, speakers.find? key = more.find? key) (key : String) :
      (lines.foldl (creditSpeaker keys) speakers).find? key =
        (lines.foldl (creditSpeaker keys) more).find? key := by
    induction lines generalizing speakers more with
    | nil => exact same key
    | cons line lines ih => exact ih _ _ (creditSpeaker_alike same line)
  exact ⟨credited _ _ _ alike.speakers, alike.cutscenes, alike.hints, alike.timing⟩

theorem Alike.addCutscene (alike : a.Alike b) (name : String) (scene : Scene) :
    (a.addCutscene keys name scene).Alike (b.addCutscene keys name scene) := by
  have credited : (a.credit keys scene).Alike (b.credit keys scene) := alike.credit scene
  obtain ⟨speakers, cutscenes, hints, timing⟩ := credited
  refine ⟨speakers, ?_, hints, ?_⟩
  · exact congrArg (OrderedMap.insert · name scene.texts) cutscenes
  · simp only [Transcript.addCutscene, timing]

theorem Alike.addHint (alike : a.Alike b) (name id : String) (scene : Scene) :
    (a.addHint keys name id scene).Alike (b.addHint keys name id scene) := by
  have credited : (a.credit keys scene).Alike (b.credit keys scene) := alike.credit scene
  obtain ⟨speakers, cutscenes, hints, timing⟩ := credited
  refine ⟨speakers, cutscenes, ?_, ?_⟩
  · exact congrArg (OrderedMap.insert · name scene.texts) hints
  · simp only [Transcript.addHint, timing]

/-- The order that the speakers begin in does not come into the documents. -/
theorem Alike.documents_added (alike : a.Alike b) (entries : List (String × Scene)) :
    (entries.foldlM (added keys) a).map documents = (entries.foldlM (added keys) b).map documents := by
  induction entries generalizing a b with
  | nil => exact congrArg Except.ok alike.documents_eq
  | cons entry entries ih =>
    rw [List.foldlM_cons, List.foldlM_cons]
    unfold added
    cases entry.2.kind with
    | movie => exact ih (alike.addCutscene entry.1 entry.2)
    | invalid => exact ih alike
    | hint | namedHint =>
      cases HexId.format entry.2.id 1 with
      | error fault => rfl
      | ok id => exact ih (alike.addHint entry.1 id entry.2)

end Transcript

namespace Script
variable {a b : Script}

/-- Scenes are listed by name with what is written of them. -/
theorem WrittenAlike.inOrder (same : a.WrittenAlike b) :
    a.inOrder.map (Prod.map id Scene.bare) = b.inOrder.map (Prod.map id Scene.bare) := by
  rw [Script.inOrder, Script.inOrder, ← OrderedMap.sorted_map, ← OrderedMap.sorted_map]
  refine OrderedMap.sorted_congr byName_ranks byName_antisymm fun name => ?_
  rw [OrderedMap.find?_map, OrderedMap.find?_map]
  have found := same name
  generalize a.scenes.find? name = x at found ⊢
  generalize b.scenes.find? name = y at found ⊢
  cases found with
  | none => rfl
  | some both => exact congrArg some both.bare

variable {speakers others : OrderedMap String String}

theorem WrittenAlike.composed (same : a.WrittenAlike b) (spoken : SameSpeakers speakers others) :
    (a.composed speakers).map Transcript.documents =
      (b.composed others).map Transcript.documents := by
  have bare (script : Script) : script.composed speakers =
      (script.inOrder.map (Prod.map id Scene.bare)).foldlM (Transcript.added (speakerKeys speakers))
        { dialogue := { speakers } } := by
    -- What a step writes of a scene is there in the bare scene as well.
    rw [List.foldlM_map]
    rfl
  have start : Transcript.Alike { dialogue := { speakers } } { dialogue := { speakers := others } } :=
    ⟨spoken.names, rfl, rfl, rfl⟩
  rw [bare a, same.inOrder, ← bare b, Script.composed, Script.composed,
    Transcript.added_congr spoken.keys]
  exact start.documents_added b.inOrder

end Script

/-- What is saved hangs on content alone. Tables that were filled in any way, until they had the
same texts for the same ids, have one document, or none for the same cause. And whichever way the
scenes of two scripts came in, if those of one name have one kind, one id and the same lines, the
same speakers make the same documents of both, whoever listens. -/
theorem documents_show_content_only :
    (∀ (language other : Int) (calls more : List (Int × String)),
      let first := (TextTable.new language).setLines calls
      let second := (TextTable.new other).setLines more
      (∀ id, first.lines.find? id = second.lines.find? id) → first.document = second.document) ∧
    ∀ (first second : Script) (speakers others : OrderedMap String String),
      first.WrittenAlike second → SameSpeakers speakers others →
      ∃ saved, ∀ (σ : Type) (audience listeners : Option Audience),
        (Transcript.documents <$> (first.compose audience speakers : Edit σ _)).Yields saved ∧
        (Transcript.documents <$> (second.compose listeners others : Edit σ _)).Yields saved := by
  constructor
  · intro language other calls more first second same
    exact TextTable.document_congr same
  · intro first second speakers others same spoken
    refine ⟨(first.composed speakers).map Transcript.documents, fun σ audience listeners => ?_⟩
    constructor
    · exact (Script.compose_composed audience first speakers).map _
    · rw [same.composed spoken]
      exact (Script.compose_composed listeners second others).map _

/-- Texts, scenes and speakers that came in crosswise, one text after another one for its id, and
one scene with a group. -/
theorem crossed_histories_are_saved_alike :
    let calls := [(2, "b"), (1, "lost"), (1, "a")]
    let more := [(1, "a"), (2, "b")]
    let first := (TextTable.new 0).setLines calls
    let second := (TextTable.new 7).setLines more
    let said : Scene := { name := "z", lines := [⟨0, "Hi", "Jak", true⟩, .clear 5] }
    let hint : Scene := { name := "h", kind := .hint, id := 31, lines := [⟨3, "Yo", "Dax", false⟩] }
    let one : Script := { language := 0, scenes := .ofList [("z", said), ("h", hint)] }
    let two : Script :=
      { language := 1, scenes := .ofList [("h", { hint with group := "g" }), ("z", said)] }
    let speakers : OrderedMap String String := .ofList [("jak", "Jak"), ("k", "Keira")]
    let others : OrderedMap String String := .ofList [("k", "Keira"), ("jak", "Jak")]
    let text := "\x7b\n  \"0001\": \"a\",\n  \"0002\": \"b\"\n\x7d"
    first.lines.entries ≠ second.lines.entries ∧ first.document = .ok text ∧
      second.document = .ok text ∧ one.scenes.keys ≠ two.scenes.keys ∧
      ∃ documents,
        (Transcript.documents <$> (one.compose none speakers : Edit Unit _)).Yields (.ok documents) ∧
        (Transcript.documents <$> (two.compose none others : Edit Unit _)).Yields (.ok documents) := by
  intro calls more first second said hint one two speakers others text
  obtain ⟨tables, scripts⟩ := documents_show_content_only
  have lines : first.lines.entries.Perm second.lines.entries := by decide
  have written : one.WrittenAlike two := by
    intro name
    by_cases called : name = "h"
    · subst called
      exact .some ⟨rfl, rfl, rfl⟩
    · by_cases named : name = "z"
      · subst named
        exact .some ⟨rfl, rfl, rfl⟩
      · have absent (m : OrderedMap String Scene) (keys : m.keys.Perm ["h", "z"]) :
            m.find? name = none := by
          simp [OrderedMap.find?_eq_none_iff, keys.mem_iff, called, named]
        rw [absent one.scenes (by decide), absent two.scenes (by decide)]
        exact .none
  have spoken : SameSpeakers speakers others :=
    ⟨OrderedMap.find?_of_perm (by decide), OrderedMap.find?_of_perm (by decide)⟩
  have document : first.document = .ok text := rfl
  have same : first.document = second.document :=
    tables 0 7 calls more (OrderedMap.find?_of_perm lines)
  obtain ⟨saved, both⟩ := scripts one two speakers others written spoken
  obtain ⟨saves, also⟩ := both Unit none none
  obtain ⟨documents, made⟩ := ok_of_toBool (by decide +kernel :
    ((Transcript.documents <$> (one.compose none speakers : Edit Unit _)) ()).result.toBool = true)
  obtain rfl : saved = .ok documents := (saves ()).symm.trans made
  exact ⟨by decide, document, same.symm.trans document, by decide, documents, saves, also⟩

/-- Of two keys with one name the later one is written. -/
example :
    let first : OrderedMap String String := .ofList [("a", "Jak"), ("b", "Jak")]
    let second : OrderedMap String String := .ofList [("b", "Jak"), ("a", "Jak")]
    first.entries.Perm second.entries ∧ (speakerKeys first).find? "Jak" = some "b" ∧
      (speakerKeys second).find? "Jak" = some "a" := by decide

end Libretto
