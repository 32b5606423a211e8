import Libretto.Proofs.Restoration
import Mathlib.Logic.Basic

/-! From a script to documents and back. A scene as documents make it comes back whole if its
speakers can be told from their keys, and only then. -/
namespace Libretto

variable {speakers : OrderedMap String String}

/-- What there is of a scene apart from its group. -/
def Scene.content (scene : Scene) : String × SceneKind × Int × List Line :=
  (scene.name, scene.kind, scene.id, scene.lines)

/-- A scene of which nothing is left unwritten: a line without text is a clear entry. -/
structure Scene.Canonical (scene : Scene) : Prop extends scene.Proper where
  bare : ∀ line ∈ scene.lines, line.text = "" → line.speaker = "" ∧ line.offscreen = false

namespace Line

theorem reread_clear {line : Line} (clear : line.text = "") :
    line.reread speakers = .clear line.frame := by
  rw [reread, isClear, clear]
  rfl

theorem reread_said {line : Line} (said : line.text ≠ "") :
    line.reread speakers = { line with speaker := Staging.reread speakers line.speaker } := by
  have shown : line.isClear = false := by simpa [isClear] using said
  rw [reread, shown]
  rfl

theorem reread_bare {line : Line} (clear : line.text = "")
    (bare : line.speaker = "" ∧ line.offscreen = false) : line.reread speakers = line := by
  rw [reread_clear clear]
  obtain ⟨frame, text, speaker, offscreen⟩ := line
  obtain ⟨rfl, rfl⟩ := bare
  obtain rfl := clear
  rfl

theorem reread_eq_self_iff {line : Line}
    (bare : line.text = "" → line.speaker = "" ∧ line.offscreen = false) :
    line.reread speakers = line ↔
      (line.text ≠ "" → line.speaker ≠ "" → Staging.Recoverable speakers line.speaker) := by
  by_cases clear : line.text = ""
  · exact iff_of_true (reread_bare clear (bare clear)) fun said => absurd clear said
  · have same : line.reread speakers = line ↔
        Staging.reread speakers line.speaker = line.speaker := by
      rw [reread_said clear]
      constructor
      · intro equal
        exact congrArg Line.speaker equal
      · intro equal
        rw [equal]
    rw [same]
    by_cases nobody : line.speaker = ""
    · simp [nobody]
    · rw [Staging.reread_eq_iff nobody]
      simp [clear, nobody]

end Line

theorem map_eq_self_iff {f : α → α} (xs : List α) : xs.map f = xs ↔ ∀ x ∈ xs, f x = x := by
  have same := List.map_inj_left (l := xs) (f := f) (g := id)
  rwa [List.map_id] at same

namespace Scene

theorem Proper.valid {scene : Scene} (proper : scene.Proper) : scene.kind ≠ .invalid := by
  rcases proper.kind with ⟨kind, -⟩ | ⟨kind, -⟩ | ⟨kind, -⟩ <;> simp [kind]

/-- The lines of a hint are on screen already. -/
theorem restored_hint {scene : Scene} (proper : scene.Proper) (hint : scene.kind.isHint = true)
    (name : String) : scene.restored speakers name =
      { name, kind := if scene.id = 0 then .namedHint else .hint, id := scene.id,
        lines := scene.lines.map (Line.reread speakers) } := by
  have lines : (scene.lines.map fun line => line.onScreen.reread speakers) =
      scene.lines.map (Line.reread speakers) := by
    apply List.map_congr_left
    intro line member
    rw [Line.onScreen, ← proper.onScreen hint line member]
  rw [restored, if_pos hint, lines]

/-- The kind and the id are those that a scene of documents has. -/
theorem restored_proper {scene : Scene} (proper : scene.Proper) (name : String) :
    scene.restored speakers name =
      { name, kind := scene.kind, id := scene.id,
        lines := scene.lines.map (Line.reread speakers) } := by
  rcases proper.kind with ⟨movie, zero⟩ | ⟨hint, positive⟩ | ⟨named, zero⟩
  · rw [restored, movie, zero]
    rfl
  · have nonzero : scene.id ≠ 0 := by omega
    rw [restored_hint proper (by rw [hint]; rfl), if_neg nonzero, hint]
  · rw [restored_hint proper (by rw [named]; rfl), if_pos zero, named]

theorem restored_content_iff {scene : Scene} {name : String} (canonical : scene.Canonical)
    (named : scene.name = name) :
    (scene.restored speakers name).content = scene.content ↔
      ∀ line ∈ scene.lines, line.text ≠ "" → line.speaker ≠ "" →
        Staging.Recoverable speakers line.speaker := by
  have same : (scene.restored speakers name).content = scene.content ↔
      scene.lines.map (Line.reread speakers) = scene.lines := by
    rw [restored_proper canonical.toProper]
    simp [content, named]
  rw [same, map_eq_self_iff]
  apply forall₂_congr
  intro line member
  exact Line.reread_eq_self_iff (canonical.bare line member)

end Scene

namespace Script

/-- The scenes of two scripts are the same, their groups aside. -/
def SameContent (a b : Script) : Prop :=
  ∀ name, (a.scenes.find? name).map Scene.content = (b.scenes.find? name).map Scene.content

/-- A script as it could have been read: each scene under its own name and with nothing that
documents have no place for. -/
structure Canonical (script : Script) : Prop where
  language : 0 ≤ script.language
  named : ∀ name scene, script.scenes.find? name = some scene → scene.name = name
  scenes : ∀ name scene, script.scenes.find? name = some scene → scene.Canonical

theorem naturalIds_of_proper {script : Script}
    (proper : ∀ name scene, script.scenes.find? name = some scene → scene.Proper) :
    script.NaturalIds := by
  intro name scene found hint
  rcases (proper name scene found).kind with ⟨movie, -⟩ | ⟨-, positive⟩ | ⟨-, zero⟩
  · rw [movie] at hint
    cases hint
  · omega
  · omega

/-- Proper scenes are all written, so the script that is read back has one for each. -/
theorem find?_filter_valid {script : Script}
    (proper : ∀ name scene, script.scenes.find? name = some scene → scene.Proper) (name : String) :
    ((script.scenes.find? name).filter fun scene => scene.kind ≠ .invalid) =
      script.scenes.find? name := by
  cases found : script.scenes.find? name with
  | none => rfl
  | some scene => simp [(proper name scene found).valid]

/-- The way there and back for scenes as documents make them: none is left out. -/
theorem stage_written {script : Script}
    (proper : ∀ name scene, script.scenes.find? name = some scene → scene.Proper)
    {source : ScriptSource} (json : source.format = .json) (language : 0 ≤ source.language)
    (writable : Numeral.isWritable source.language = true) {blank : Desk}
    (bare : blank.store.scripts = .empty) (speakers : OrderedMap String String)
    (listeners audience : Option Audience) (replace : Bool) :
    ∃ transcript : Transcript,
      (∀ σ : Type, (script.compose listeners speakers : Edit σ Transcript).Yields
        (.ok transcript)) ∧
      let loaded := Desk.stage audience transcript.dialogue transcript.timing source replace blank
      ∃ made, loaded.result = .ok made ∧ loaded.state.store.script? source.language = some made ∧
        ∀ name, made.scenes.find? name =
          (script.scenes.find? name).map (Scene.restored speakers name) := by
  have natural : script.NaturalIds := naturalIds_of_proper proper
  have ordered : script.InFrameOrder := fun name scene found => (proper name scene found).ordered
  refine ⟨script.transcript speakers, fun σ => compose_yields natural _ _, ?_⟩
  obtain ⟨made, result, stored, scenes⟩ := Desk.stage_transcript speakers natural ordered json
    language writable bare audience replace
  refine ⟨made, result, stored, ?_⟩
  intro name
  rw [scenes name, find?_filter_valid proper]

/-- Scripts that are compared by name are compared scene by scene. -/
theorem sameContent_iff {script made : Script} {change : String → Scene → Scene}
    (changed : ∀ name, made.scenes.find? name = (script.scenes.find? name).map (change name)) :
    script.SameContent made ↔ ∀ name scene, script.scenes.find? name = some scene →
      (change name scene).content = scene.content := by
  apply forall_congr'
  intro name
  rw [changed name]
  cases script.scenes.find? name with
  | none => simp
  | some scene => simp [eq_comm]

/-- A canonical script can be written and read again, and it is the same then exactly if its
speakers can be told from their keys. Only a language that cannot be written is in the way. -/
theorem reading_restores_iff {script : Script} (canonical : script.Canonical)
    (writable : Numeral.isWritable script.language = true) {source : ScriptSource}
    (json : source.format = .json) (same : source.language = script.language) {blank : Desk}
    (bare : blank.store.scripts = .empty) (speakers : Option (OrderedMap String String))
    (listeners audience : Option Audience) (replace : Bool) :
    ∃ transcript : Transcript,
      (∀ σ : Type, (script.compose listeners (speakers.getD .empty) : Edit σ Transcript).Yields
        (.ok transcript)) ∧
      let loaded := Desk.stage audience transcript.dialogue transcript.timing source replace blank
      ∃ made, loaded.result = .ok made ∧ loaded.state.store.script? script.language = some made ∧
        (script.SameContent made ↔ ∀ name scene, script.scenes.find? name = some scene →
          ∀ line ∈ scene.lines, line.text ≠ "" → line.speaker ≠ "" →
            Staging.Recoverable (speakers.getD .empty) line.speaker) := by
  have proper : ∀ name scene, script.scenes.find? name = some scene → scene.Proper :=
    fun name scene found => (canonical.scenes name scene found).toProper
  have language : 0 ≤ source.language := same ▸ canonical.language
  have named : Numeral.isWritable source.language = true := same ▸ writable
  obtain ⟨transcript, composed, made, result, stored, changed⟩ := stage_written proper json language
    named bare (speakers.getD .empty) listeners audience replace
  refine ⟨transcript, composed, made, result, same ▸ stored, ?_⟩
  rw [sameContent_iff changed]
  apply forall₃_congr
  intro name scene found
  exact Scene.restored_content_iff (canonical.scenes name scene found)
    (canonical.named name scene found)

theorem reading_restores_a_named_speaker :
    let said : Scene := { name := "a", lines := [⟨1, "Hi", "Jak", true⟩, .clear 5] }
    let script : Script := { language := 0, scenes := .ofList [("a", said)] }
    let speakers : OrderedMap String String := .ofList [("jak", "Jak")]
    let blank : Desk := ⟨.new none none, []⟩
    script.Canonical ∧ ∃ (transcript : Transcript) (made : Script),
      (script.compose none speakers : Edit Unit Transcript).Yields (.ok transcript) ∧
      (Desk.stage none transcript.dialogue transcript.timing { language := 0 } false blank).result =
        .ok made ∧ script.SameContent made := by
  intro said script speakers blank
  have canonical : script.Canonical := by
    refine ⟨Int.le_refl 0, fun name scene found => ?_, fun name scene found => ?_⟩
    all_goals obtain ⟨rfl, rfl⟩ := OrderedMap.find?_single found
    · rfl
    · refine ⟨⟨.inl ⟨rfl, rfl⟩, ?_, fun hint => ?_⟩, ?_⟩
      · simp [said, Libretto.InFrameOrder, Line.clear]
      · cases hint
      · simp [said, Line.clear]
  have writable : Numeral.isWritable script.language = true := by decide +kernel
  have json : ({ language := 0 } : ScriptSource).format = .json := rfl
  have bare : blank.store.scripts = .empty := rfl
  obtain ⟨transcript, composed, made, result, -, restores⟩ :=
    reading_restores_iff canonical writable json rfl bare (some speakers) none none false
  refine ⟨canonical, transcript, made, composed Unit, result, restores.mpr ?_⟩
  intro name scene found line member text speaker
  obtain ⟨rfl, rfl⟩ := OrderedMap.find?_single found
  have recovered : Staging.Recoverable speakers "Jak" := .inl ⟨"jak", rfl, by decide⟩
  simp only [said, List.mem_cons, List.not_mem_nil, or_false] at member
  rcases member with rfl | rfl
  · exact recovered
  · exact absurd rfl text

/-- In a language that cannot be written no script comes back, whatever there is to read. -/
theorem unwritable_language_is_not_restored :
    let scenes : OrderedMap String Scene := .ofList [("a", { name := "a" })]
    let script : Script := { language := Nat.pow 10 Numeral.decimalLimit, scenes }
    let transcript : Transcript :=
      { dialogue := { cutscenes := .ofList [("a", [])] },
        timing := { cutscenes := .ofList [("a", [])] } }
    let source : ScriptSource := { language := script.language }
    script.Canonical ∧
      (script.compose none .empty : Edit Unit Transcript).Yields (.ok transcript) ∧
      (Desk.stage none transcript.dialogue transcript.timing source false
        ⟨.new none none, []⟩).result = .error .unwritableInteger := by
  intro scenes script transcript source
  have natural : 0 ≤ script.language := Int.natCast_nonneg _
  have huge : Numeral.isWritable source.language = false := Numeral.isWritable_bound
  refine ⟨⟨natural, ?_, ?_⟩, fun state => rfl, ?_⟩
  · intro name scene found
    obtain ⟨rfl, rfl⟩ := OrderedMap.find?_single found
    rfl
  · intro name scene found
    obtain ⟨rfl, rfl⟩ := OrderedMap.find?_single found
    refine ⟨⟨.inl ⟨rfl, rfl⟩, .nil, fun hint => ?_⟩, fun line member => ?_⟩
    · cases hint
    · cases member
  · have built : Desk.built transcript.dialogue transcript.timing source = .ok [{ name := "a" }] :=
      Desk.built_json rfl natural _ _
    rw [Desk.stage_result, Desk.admitted_built built, Staging.accepted_unwritable huge]

end Script

end Libretto
