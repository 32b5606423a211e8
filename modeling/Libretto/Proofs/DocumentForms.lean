import Libretto.Dialogue
import Libretto.Proofs.Edits
import Libretto.Proofs.OrderedMaps
import Libretto.Proofs.SortedLists
import Libretto.Timing

/-! The documents of a script as values, written and read back. Sections come back in the order of
their names, which is the order they are written in. A clear entry is written with its frame
alone, so nothing else of it comes back. -/
namespace Libretto

theorem byName_ranks : Ranks byName := by
  constructor
  · intro a b first
    have later : ¬ b < a := String.lt_asymm (of_decide_eq_true first)
    exact decide_eq_false later
  · intro a b c first second
    simp only [byName, decide_eq_false_iff_not, String.not_lt] at first second ⊢
    exact String.le_trans first second

theorem OrderedMap.sorted_map (before : κ → κ → Bool) (f : ν → μ) (m : OrderedMap κ ν) :
    (m.map fun _ => f).sorted before = (m.sorted before).map (Prod.map id f) :=
  (arrange_map (fun _ _ => rfl) m.entries).symm

/-- Entries in the order of their names. -/
def InNameOrder (entries : List (String × ν)) : Prop :=
  Arranged (fun a b => byName a.1 b.1) entries

theorem inNameOrder_sorted (m : OrderedMap String ν) : InNameOrder (m.sorted byName) := by
  have ranks : Ranks fun a b : String × ν => byName a.1 b.1 := byName_ranks.comap
  exact arrange_arranged ranks m.entries

/-- A map that is in order already stays as it is, and so do values that do not change. -/
theorem ofList_sorted {m : OrderedMap String ν} (ordered : InNameOrder m.entries) {f : ν → ν}
    (fixed : ∀ entry ∈ m.entries, f entry.2 = entry.2) :
    OrderedMap.ofList ((m.sorted byName).map (Prod.map id f)) = m := by
  have sorted : m.sorted byName = m.entries := arrange_of_arranged m.entries ordered
  have same : m.entries.map (Prod.map id f) = m.entries.map id :=
    List.map_congr_left fun entry member => Prod.ext rfl (fixed entry member)
  rw [sorted, same, List.map_id]
  exact OrderedMap.ofList_entries m

theorem InNameOrder.map {entries : List (String × ν)} (ordered : InNameOrder entries) (f : ν → μ) :
    InNameOrder (entries.map (Prod.map id f)) := by
  apply List.pairwise_map.mpr
  exact List.Pairwise.imp id ordered

/-- A cue as far as it is written. -/
def Cue.plain (cue : Cue) : Cue := if cue.clear then { frame := cue.frame, clear := true } else cue

def HintCue.plain (cue : HintCue) : HintCue :=
  if cue.clear then { frame := cue.frame, clear := true } else cue

def HintTiming.plain (hint : HintTiming) : HintTiming := ⟨hint.id, hint.cues.map HintCue.plain⟩

theorem Cue.ofValue_toValue (cue : Cue) : ofValue cue.toValue = .ok cue.plain := by
  obtain ⟨frame, offscreen, speaker, clear⟩ := cue
  cases clear <;> rfl

theorem HintCue.ofValue_toValue (cue : HintCue) : ofValue cue.toValue = .ok cue.plain := by
  obtain ⟨frame, speaker, clear⟩ := cue
  cases clear <;> rfl

theorem HintTiming.ofValue_toValue (hint : HintTiming) : ofValue hint.toValue = .ok hint.plain := by
  have cues : (hint.cues.map HintCue.toValue).mapM HintCue.ofValue =
      .ok (hint.cues.map HintCue.plain) := by
    rw [List.mapM_map]
    exact mapM_ok_of_each fun cue _ => HintCue.ofValue_toValue cue
  change ((hint.cues.map HintCue.toValue).mapM HintCue.ofValue >>= fun cues =>
    Except.ok (⟨hint.id, cues⟩ : HintTiming)) = _
  rw [cues]
  rfl

/-- The entries of a map as they are read back when each value is. -/
theorem mapM_section {ν μ : Type} {write : ν → Value} {read : String × Value → Except Fault (String × μ)}
    {back : ν → μ} (undoes : ∀ name item, read (name, write item) = .ok (name, back item))
    (entries : List (String × ν)) :
    (entries.map fun (name, item) => (name, write item)).mapM read =
      .ok (entries.map (Prod.map id back)) := by
  rw [List.mapM_map]
  exact mapM_ok_of_each fun (name, item) _ => undoes name item

namespace Dialogue

/-- A dialogue with every section in the order of its names. -/
def inOrder (dialogue : Dialogue) : Dialogue where
  speakers := .ofList (dialogue.speakers.sorted byName)
  cutscenes := .ofList (dialogue.cutscenes.sorted byName)
  hints := .ofList (dialogue.hints.sorted byName)

theorem texts_written (speakers : List (String × String)) :
    (speakers.map fun (key, name) => (key, Value.str name)).mapM
      (fun (name, value) => value.str?.map (name, ·)) = some speakers := by
  induction speakers with
  | nil => rfl
  | cons speaker speakers ih =>
    rw [List.map_cons, List.mapM_cons, ih]
    rfl

theorem textMap_written (context : String) (speakers : List (String × String)) :
    textMap context (speakers.map fun (key, name) => (key, .str name)) = .ok (.ofList speakers) := by
  rw [textMap, texts_written]

theorem textLists_written (context : String) (scenes : List (String × List String)) :
    textLists context (scenes.map fun (name, texts) => (name, textsValue texts)) =
      .ok (.ofList scenes) := by
  have undoes (name : String) (texts : List String) :
      textList context (name, textsValue texts) = .ok (name, texts) := by
    simp only [textList, textsValue, listOf, Value.texts?_str, bind, Except.bind]
  have each := mapM_section undoes scenes
  have same : scenes.map (Prod.map id fun texts => texts) = scenes := List.map_id scenes
  rw [same] at each
  rw [textLists, each]
  rfl

theorem ofValue_toValue (dialogue : Dialogue) : ofValue dialogue.toValue = .ok dialogue.inOrder := by
  have speakers := textMap_written "Subtitle speakers" (dialogue.speakers.sorted byName)
  have cutscenes := textLists_written "Subtitle cutscenes" (dialogue.cutscenes.sorted byName)
  have hints := textLists_written "Subtitle hints" (dialogue.hints.sorted byName)
  change (textMap _ _ >>= fun speakers => textLists _ _ >>= fun cutscenes => textLists _ _ >>=
    fun hints => Except.ok (⟨speakers, cutscenes, hints⟩ : Dialogue)) = _
  rw [speakers, cutscenes, hints]
  rfl

end Dialogue

namespace Timing

/-- A timing as far as it is written, with both sections in the order of their names. -/
def inOrder (timing : Timing) : Timing where
  cutscenes := .ofList ((timing.cutscenes.sorted byName).map (Prod.map id (List.map Cue.plain)))
  hints := .ofList ((timing.hints.sorted byName).map (Prod.map id HintTiming.plain))

theorem cutscene_written (name : String) (cues : List Cue) :
    cutscene (name, .list (cues.map Cue.toValue)) = .ok (name, cues.map Cue.plain) := by
  have each : (cues.map Cue.toValue).mapM Cue.ofValue = .ok (cues.map Cue.plain) := by
    rw [List.mapM_map]
    exact mapM_ok_of_each fun cue _ => Cue.ofValue_toValue cue
  change ((cues.map Cue.toValue).mapM Cue.ofValue >>= fun cues => Except.ok (name, cues)) = _
  rw [each]
  rfl

theorem hint_written (name : String) (timing : HintTiming) :
    hint (name, timing.toValue) = .ok (name, timing.plain) := by
  rw [hint, HintTiming.ofValue_toValue]
  rfl

theorem ofValue_toValue (timing : Timing) : ofValue timing.toValue = .ok timing.inOrder := by
  have cutscenes := mapM_section cutscene_written (timing.cutscenes.sorted byName)
  have hints := mapM_section hint_written (timing.hints.sorted byName)
  change (List.mapM cutscene _ >>= fun cutscenes => List.mapM hint _ >>= fun hints =>
    Except.ok (⟨.ofList cutscenes, .ofList hints⟩ : Timing)) = _
  rw [cutscenes, hints]
  rfl

end Timing

end Libretto
