import Libretto.Proofs.Warnings
import Mathlib.Logic.Function.Basic

/-! Speakers without a display name. A reader remembers which of them it has reported, through all
of its requests, and it remembers nothing else: each of them is reported once, by the first request
that comes to a cue for it and has a text for that cue, while results and stores are what they would
be if the reader had forgotten everything before each request. -/
namespace Libretto

/-- The speaker that an entry reports as unknown. -/
def Entry.unknown? : Entry → Option String
  | .log (.unknownSpeaker key) | .event (.report (.unknownSpeaker key)) => some key
  | _ => none

/-- As much of a journal as reports speakers. -/
def speakerReports (journal : List Entry) : List Entry :=
  journal.filter fun entry => entry.unknown?.isSome

def reportsOf (audience : Option Audience) (keys : List String) : List Entry :=
  keys.flatMap fun key => reportTo audience (.unknownSpeaker key)

theorem speakerReports_append (first later : List Entry) :
    speakerReports (first ++ later) = speakerReports first ++ speakerReports later :=
  List.filter_append ..

theorem reportsOf_append (audience : Option Audience) (keys more : List String) :
    reportsOf audience (keys ++ more) = reportsOf audience keys ++ reportsOf audience more :=
  List.flatMap_append

theorem speakerReports_reportTo (audience : Option Audience) (key : String) :
    speakerReports (reportTo audience (.unknownSpeaker key)) = reportsOf audience [key] := by
  rw [reportsOf, List.flatMap_singleton]
  rcases audience with _ | ⟨recorder, loggers⟩
  · rfl
  · cases recorder <;> cases loggers <;> rfl

/-- A speaker that is unknown is warned of, so there is no other place to look for it. -/
theorem speakerReports_eq_nil {journal : List Entry}
    (others : ∀ key, .unknownSpeaker key ∉ warnings journal) : speakerReports journal = [] := by
  refine List.filter_eq_nil_iff.mpr fun entry there names => ?_
  obtain ⟨key, named⟩ := Option.isSome_iff_exists.mp names
  refine others key (List.mem_filterMap.mpr ⟨entry, there, ?_⟩)
  unfold Entry.unknown? at named
  split at named <;> cases named <;> rfl

/-- What becomes of the speakers reported `before`. Behind them come those that there is cause to
report and that are not among them, each once and each with its report in the journal. -/
structure Noted (audience : Option Audience) (cause : String → Prop)
    (before new after : List String) (journal : List Entry) : Prop where
  grown : after = before ++ new
  distinct : new.Nodup
  fresh : ∀ key, key ∈ new ↔ cause key ∧ key ∉ before
  told : speakerReports journal = reportsOf audience new

namespace Noted
variable {audience : Option Audience} {p q : String → Prop}
  {before new after more last : List String} {journal later : List Entry}

theorem nothing (silent : speakerReports journal = []) :
    Noted audience (fun _ => False) before [] before journal :=
  ⟨(List.append_nil before).symm, .nil, fun key => by simp, silent⟩

theorem congr (noted : Noted audience p before new after journal) (same : ∀ key, p key ↔ q key) :
    Noted audience q before new after journal :=
  { noted with fresh := fun key => (noted.fresh key).trans (and_congr_left' (same key)) }

/-- What is new to the second of two is neither among the first nor before them. -/
theorem append (head : Noted audience p before new after journal)
    (tail : Noted audience q after more last later) :
    Noted audience (fun key => p key ∨ q key) before (new ++ more) last (journal ++ later) := by
  obtain ⟨rfl, distinct, fresh, told⟩ := head
  obtain ⟨rfl, apart, further, also⟩ := tail
  simp only [List.mem_append, not_or] at further
  refine ⟨List.append_assoc .., ?_, fun key => ?_, ?_⟩
  · refine List.nodup_append.mpr ⟨distinct, apart, ?_⟩
    rintro key early _ late rfl
    exact ((further key).mp late).2.2 early
  · rw [List.mem_append, further, fresh]
    by_cases first : p key <;> by_cases known : key ∈ before <;> simp [first, known]
  · rw [speakerReports_append, told, also, reportsOf_append]

end Noted

/-- Where an item stands in a list with one more item before all others. -/
theorem exists_split_cons {holds : List α → α → Prop} {first : α} {items : List α} :
    (∃ before item after, first :: items = before ++ item :: after ∧ holds before item) ↔
      holds [] first ∨
        ∃ before item after, items = before ++ item :: after ∧ holds (first :: before) item := by
  constructor
  · rintro ⟨_ | ⟨head, before⟩, item, after, same, held⟩
    · obtain ⟨rfl, -⟩ := List.cons.inj same
      exact .inl held
    · obtain ⟨rfl, rest⟩ := List.cons.inj same
      exact .inr ⟨before, item, after, rest, held⟩
  · rintro (held | ⟨before, item, after, rfl, held⟩)
    · exact ⟨[], first, items, rfl, held⟩
    · exact ⟨first :: before, item, after, rfl, held⟩

/-- There is an item with something to it, and all items before it are fine. -/
def ComesTo (fine holds : α → Prop) (items : List α) : Prop :=
  ∃ before item after, items = before ++ item :: after ∧ (∀ other ∈ before, fine other) ∧ holds item

theorem comesTo_cons {fine holds : α → Prop} {first : α} {items : List α} :
    ComesTo fine holds (first :: items) ↔ holds first ∨ fine first ∧ ComesTo fine holds items := by
  unfold ComesTo
  rw [exists_split_cons]
  refine or_congr (by simp) ?_
  simp only [List.forall_mem_cons, and_left_comm (b := fine first), and_assoc, exists_and_left]

namespace Edit
variable {σ τ α β γ : Type} {view : σ → List String} {audience : Option Audience}
  {p q : String → Prop}

/-- From any state on, the speakers that `view` shows are those that an edit has cause to report. -/
def Notes (view : σ → List String) (audience : Option Audience) (cause : String → Prop)
    (edit : Edit σ α) : Prop :=
  ∀ state, ∃ new, Noted audience cause (view state) new (view (edit state).state)
    (edit state).journal

namespace Notes

theorem congr {edit : Edit σ α} (notes : edit.Notes view audience p)
    (same : ∀ key, p key ↔ q key) : edit.Notes view audience q := by
  intro state
  obtain ⟨new, noted⟩ := notes state
  exact ⟨new, noted.congr same⟩

/-- An edit that lets the speakers alone and warns of none. -/
theorem nothing {edit : Edit σ α} (kept : ∀ state, view (edit state).state = view state)
    (warns : edit.WarnsOf fun notice => ∀ key, notice ≠ .unknownSpeaker key) :
    edit.Notes view audience fun _ => False := by
  intro state
  rw [kept]
  exact ⟨[], .nothing (speakerReports_eq_nil fun key told => warns state _ told key rfl)⟩

theorem pure (value : α) : (Pure.pure value : Edit σ α).Notes view audience fun _ => False :=
  nothing (fun _ => rfl) (.pure value)

theorem fail (fault : Fault) : (Edit.fail fault : Edit σ α).Notes view audience fun _ => False :=
  nothing (fun _ => rfl) (.fail fault)

theorem ofExcept (value : Except Fault α) :
    (Edit.ofExcept value : Edit σ α).Notes view audience fun _ => False :=
  nothing (fun _ => by cases value <;> rfl) (.ofExcept value)

/-- The second of two edits is come to only where the first one does not fail. -/
theorem bind {first : Edit σ α} {next : α → Edit σ β} {result : Except Fault α}
    (yields : first.Yields result) (head : first.Notes view audience p)
    (tail : ∀ value, (next value).Notes view audience q) :
    (first >>= next).Notes view audience fun key => p key ∨ Succeeds result ∧ q key := by
  intro state
  obtain ⟨new, noted⟩ := head state
  rw [run_bind, yields state]
  cases result with
  | error fault => exact ⟨new, noted.congr fun key => by simp⟩
  | ok value =>
    obtain ⟨more, later⟩ := tail value (first state).state
    exact ⟨new ++ more, (noted.append later).congr fun key => by simp⟩

theorem bind_last {first : Edit σ α} {f : α → β} {result : Except Fault α}
    (yields : first.Yields result) (head : first.Notes view audience p) :
    (first >>= fun value => Pure.pure (f value)).Notes view audience p :=
  (bind yields head fun value => pure (f value)).congr fun key => by simp

/-- An item of a list is come to only where none before it fails. -/
theorem mapM {step : γ → Edit σ α} {cause : γ → String → Prop} {items : List γ}
    (results : γ → Except Fault α) (yields : ∀ item ∈ items, (step item).Yields (results item))
    (each : ∀ item ∈ items, (step item).Notes view audience (cause item)) :
    (items.mapM step).Notes view audience fun key =>
      ComesTo (fun item => Succeeds (results item)) (cause · key) items := by
  induction items with
  | nil => exact (pure []).congr fun key => by simp [ComesTo]
  | cons item items ih =>
    obtain ⟨first, rest⟩ := List.forall_mem_cons.mp yields
    obtain ⟨head, tail⟩ := List.forall_mem_cons.mp each
    rw [List.mapM_cons]
    refine (bind first head fun value => bind_last (.mapM rest) (ih rest tail)).congr fun key => ?_
    rw [comesTo_cons]

theorem within {part : σ → τ} {replace : τ → σ → σ} {edit : Edit τ α} {inner : τ → List String}
    (before : ∀ state, inner (part state) = view state)
    (after : ∀ new state, inner new = view (replace new state))
    (notes : edit.Notes inner audience p) :
    (Edit.within part replace edit).Notes view audience p := by
  intro state
  obtain ⟨new, noted⟩ := notes (part state)
  rw [before, after _ state] at noted
  exact ⟨new, noted⟩

end Notes

end Edit

namespace Staging

/-- A speaker that a document does not name. -/
def Unnamed (speakers : OrderedMap String String) (key : String) : Prop :=
  key ≠ "" ∧ speakers.find? key = none

/-- A cue for a speaker without a display name, which there is a text for behind those that the cues
before it take. -/
def Asks (speakers : OrderedMap String String) (texts : List String) (cues : List Cue)
    (key : String) : Prop :=
  ∃ before cue after, cues = before ++ cue :: after ∧ takers before < texts.length ∧
    cue.clear = false ∧ cue.speaker = key ∧ Unnamed speakers key

section fill
variable {audience : Option Audience} {speakers : OrderedMap String String} {key : String}

theorem asks_cons_clear {cue : Cue} (clear : cue.clear = true) (cues : List Cue)
    (texts : List String) :
    Asks speakers texts (cue :: cues) key ↔ Asks speakers texts cues key := by
  have same (before : List Cue) : takers (cue :: before) = takers before := by simp [takers, clear]
  unfold Asks
  rw [exists_split_cons]
  simp [clear, same]

theorem asks_cons_taking {cue : Cue} (taking : cue.clear = false) (cues : List Cue) (text : String)
    (texts : List String) : Asks speakers (text :: texts) (cue :: cues) key ↔
      (cue.speaker = key ∧ Unnamed speakers key) ∨ Asks speakers texts cues key := by
  unfold Asks
  rw [exists_split_cons]
  simp [taking, takers]

theorem speakerName_named {spoken : String} (named : ¬ Unnamed speakers spoken) :
    speakerName audience speakers spoken = pure (displayName speakers spoken) := by
  unfold speakerName displayName
  split
  next => rfl
  next someone =>
    cases found : speakers.find? spoken with
    | some name => rfl
    | none => exact absurd ⟨mt String.isEmpty_iff.mpr someone, found⟩ named

theorem speakerName_unnamed {spoken : String} (unnamed : Unnamed speakers spoken)
    (reported : List String) : speakerName audience speakers spoken reported =
      if spoken ∈ reported then ⟨.ok spoken, reported, []⟩
      else ⟨.ok spoken, reported ++ [spoken], reportTo audience (.unknownSpeaker spoken)⟩ := by
  obtain ⟨someone, unknown⟩ := unnamed
  have named : spoken.isEmpty = false := Bool.eq_false_iff.mpr (mt String.isEmpty_iff.mp someone)
  simp only [speakerName, named, unknown, Bool.false_eq_true, if_false]
  by_cases member : spoken ∈ reported
  · simp [member]
  · simp only [Edit.run_bind, Edit.run_get, member, not_false_eq_true, if_true]
    simp [Edit.report]

theorem speakerName_notes (spoken : String) :
    (speakerName audience speakers spoken).Notes id audience fun key =>
      spoken = key ∧ Unnamed speakers key := by
  by_cases unnamed : Unnamed speakers spoken
  · intro reported
    rw [speakerName_unnamed unnamed]
    split
    next known =>
      refine ⟨[], (List.append_nil _).symm, .nil, fun key => ?_, rfl⟩
      refine iff_of_false List.not_mem_nil ?_
      rintro ⟨⟨rfl, -⟩, new⟩
      exact new known
    next new =>
      have told := speakerReports_reportTo audience spoken
      refine ⟨[spoken], rfl, List.pairwise_singleton _ _, fun key => ?_, told⟩
      rw [List.mem_singleton]
      constructor
      · rintro rfl
        exact ⟨⟨rfl, unnamed⟩, new⟩
      · exact fun asked => asked.1.1.symm
  · rw [speakerName_named unnamed]
    refine (Edit.Notes.pure _).congr fun key => iff_of_false id ?_
    rintro ⟨rfl, asked⟩
    exact unnamed asked

/-- Induction on the cues: one that takes a text takes it off those for the cues behind it. -/
theorem fill_notes (part : Part) (total : Nat) (cues : List Cue) (texts : List String)
    (scene : Scene) : (fill audience speakers part total cues texts scene).Notes id audience
      (Asks speakers texts cues) := by
  induction cues generalizing texts scene with
  | nil =>
    have none (key : String) : False ↔ Asks speakers texts [] key := by simp [Asks]
    simp only [fill]
    split
    · refine (Edit.Notes.nothing (fun _ => rfl) ?_).congr none
      exact .bind (.report _ fun _ key => by simp) fun _ => .pure _
    · exact (Edit.Notes.pure scene).congr none
  | cons cue cues ih =>
    cases kind : cue.clear with
    | true =>
      simp only [fill, kind, if_true]
      exact (ih texts _).congr fun key => (asks_cons_clear kind cues texts).symm
    | false =>
      simp only [fill, kind, Bool.false_eq_true, if_false]
      cases texts with
      | nil => exact (Edit.Notes.fail _).congr fun key => by simp [Asks]
      | cons text texts =>
        refine (Edit.Notes.bind (speakerName_yields _) (speakerName_notes _) fun speaker =>
          ih texts _).congr fun key => ?_
        rw [asks_cons_taking kind]
        simp

end fill

/-- A cutscene that is made into a scene: there are texts enough for its cues. -/
def CutsceneMade (dialogue : Dialogue) (entry : String × List Cue) : Prop :=
  takers entry.2 ≤ ((dialogue.cutscenes.find? entry.1).getD []).length

/-- A hint whose cues are come to. -/
structure HintOpened (timing : Timing) (entry : String × HintTiming) : Prop where
  apart : entry.1 ∉ timing.cutscenes.keys
  readable : (HexId.read? entry.2.id).isSome

structure HintMade (dialogue : Dialogue) (timing : Timing) (entry : String × HintTiming) : Prop
    extends HintOpened timing entry where
  enough : takers (entry.2.cues.map HintCue.toCue) ≤
    ((dialogue.hints.find? entry.1).getD []).length

def CutsceneAsks (dialogue : Dialogue) (key : String) (entry : String × List Cue) : Prop :=
  Asks dialogue.speakers ((dialogue.cutscenes.find? entry.1).getD []) entry.2 key

structure HintAsks (dialogue : Dialogue) (timing : Timing) (key : String)
    (entry : String × HintTiming) : Prop extends HintOpened timing entry where
  asks : Asks dialogue.speakers ((dialogue.hints.find? entry.1).getD [])
    (entry.2.cues.map HintCue.toCue) key

/-- Two documents ask for a speaker before they fail, if they do: cutscenes come first, then hints,
both in the order of their entries. -/
inductive Reaches (dialogue : Dialogue) (timing : Timing) (key : String) : Prop
  | cutscene (comes : ComesTo (CutsceneMade dialogue) (CutsceneAsks dialogue key)
      timing.cutscenes.entries)
  | hint (cutscenes : ∀ entry ∈ timing.cutscenes.entries, CutsceneMade dialogue entry)
      (comes : ComesTo (HintMade dialogue timing) (HintAsks dialogue timing key)
        timing.hints.entries)

section scenes
variable {audience : Option Audience} (dialogue : Dialogue) (timing : Timing) (language : Int)

theorem cutsceneOf_succeeds (entry : String × List Cue) :
    Succeeds (cutsceneOf dialogue entry) ↔ CutsceneMade dialogue entry := by
  rw [cutsceneOf, filled_eq _ _ _ _ rfl, CutsceneMade]
  split
  next enough => exact iff_of_true (.ok _) enough
  next short => exact iff_of_false (Succeeds.error _) short

theorem hintOf_succeeds (entry : String × HintTiming) :
    Succeeds (hintOf dialogue timing language entry) ↔ HintMade dialogue timing entry := by
  constructor
  · rintro ⟨scene, made⟩
    obtain ⟨apart, enough, id, read, -⟩ := hintOf_described made
    exact ⟨⟨apart, read ▸ rfl⟩, enough⟩
  · rintro ⟨⟨apart, readable⟩, enough⟩
    obtain ⟨id, read⟩ := Option.isSome_iff_exists.mp readable
    have absent : timing.cutscenes.contains entry.1 = false :=
      Bool.eq_false_iff.mpr (mt (timing.cutscenes.contains_iff entry.1).mp apart)
    rw [hintOf_eq absent read, if_pos enough]
    exact .ok _

theorem hint_notes (entry : String × HintTiming) :
    (if timing.cutscenes.contains entry.1 then
      Edit.fail (Fault.naming language (.duplicateScene entry.1 language))
    else hint audience dialogue entry.1 entry.2).Notes id audience
      (HintAsks dialogue timing · entry) := by
  split
  next shared =>
    refine (Edit.Notes.fail _).congr fun key => iff_of_false id fun asks => ?_
    exact asks.apart ((timing.cutscenes.contains_iff entry.1).mp shared)
  next apart =>
    refine (Edit.Notes.bind (.ofExcept _) (.ofExcept _) fun id => fill_notes _ _ _ _ _).congr
      fun key => ?_
    have readable : Succeeds (HexId.ofValue (.str entry.2.id)) ↔
        (HexId.read? entry.2.id).isSome := by
      rw [ofValue_eq]
      cases HexId.read? entry.2.id <;> simp
    rw [false_or, readable]
    constructor
    · rintro ⟨known, asks⟩
      exact ⟨⟨mt (timing.cutscenes.contains_iff entry.1).mpr apart, known⟩, asks⟩
    · exact fun asks => ⟨asks.readable, asks.asks⟩

/-- The hints are come to when all cutscenes have been made. -/
theorem scenes_notes : (scenes audience dialogue timing language).Notes id audience
    (Reaches dialogue timing) := by
  have cutscenes : (cutscenes audience dialogue timing).Notes id audience fun key =>
      ComesTo (fun entry => Succeeds (cutsceneOf dialogue entry)) (CutsceneAsks dialogue key)
        timing.cutscenes.entries :=
    .mapM _ (fun _ _ => fill_yields _ _ _ _ _) fun _ _ => fill_notes _ _ _ _ _
  have hints : (hints audience dialogue timing language).Notes id audience fun key =>
      ComesTo (fun entry => Succeeds (hintOf dialogue timing language entry))
        (HintAsks dialogue timing key) timing.hints.entries :=
    .mapM _ (fun entry _ => hint_yields dialogue timing language entry)
      fun entry _ => hint_notes dialogue timing language entry
  refine (Edit.Notes.bind (cutscenes_yields dialogue timing) cutscenes fun _ =>
    .bind_last (hints_yields dialogue timing language) hints).congr fun key => ?_
  rw [Succeeds.mapM_iff fun entry _ => cutsceneOf_succeeds dialogue entry]
  simp only [cutsceneOf_succeeds, hintOf_succeeds]
  constructor
  · rintro (comes | ⟨all, comes⟩)
    · exact .cutscene comes
    · exact .hint all comes
  · rintro (comes | ⟨all, comes⟩)
    · exact .inl comes
    · exact .inr ⟨all, comes⟩

end scenes

theorem reportUntimed_notes {view : σ → List String} {audience : Option Audience} (part : Part)
    (texts timed : List String) : (reportUntimed audience part texts timed : Edit σ Unit).Notes view
      audience fun _ => False := by
  refine .nothing (fun state => (reportUntimed_spares part texts timed state).1) ?_
  refine (reportUntimed_warns part texts timed).mono ?_
  rintro _ ⟨name, -, -, rfl⟩ key
  simp

end Staging

namespace Desk
variable {audience : Option Audience} (dialogue : Dialogue) (timing : Timing)
  (source : ScriptSource) (replace : Bool)

theorem admission_succeeds :
    Succeeds (admission source) ↔ source.format = .json ∧ 0 ≤ source.language := by
  unfold admission
  by_cases format : source.format = .json
  · by_cases language : source.language < 0
    · simp [format, language]
    · simp [format, language, Int.not_lt.mp language]
  · simp [format]

theorem concluded_notes (scenes : List Scene) : (concluded audience source replace scenes).Notes
    Desk.reported audience fun _ => False := by
  refine .nothing (fun desk => ?_) ?_
  · simp only [concluded, Edit.run_bind, onStore, Edit.within, Edit.run_nameable]
    cases (Staging.store source replace scenes desk.store).result with
    | error fault => rfl
    | ok script =>
      cases writable : Numeral.isWritable source.language with
      | true =>
        simp only [written_ok writable]
        rfl
      | false => simp only [written_error writable]
  · exact concluded_warns audience source replace scenes

/-- Only scenes give cause to report a speaker, and only an input that is let in comes to them. -/
theorem stage_notes :
    (stage audience dialogue timing source replace).Notes Desk.reported audience fun key =>
      (source.format = .json ∧ 0 ≤ source.language) ∧ Staging.Reaches dialogue timing key := by
  have scenes : (onReported (Staging.scenes audience dialogue timing source.language)).Notes
      Desk.reported audience (Staging.Reaches dialogue timing) :=
    .within (fun _ => rfl) (fun _ _ => rfl) (Staging.scenes_notes dialogue timing source.language)
  have prepared : (prepared audience dialogue timing source).Notes Desk.reported audience fun key =>
      (source.format = .json ∧ 0 ≤ source.language) ∧ Staging.Reaches dialogue timing key := by
    refine (Edit.Notes.bind (.ofExcept _) (.ofExcept _) fun _ =>
      .bind (Staging.reportUntimed_yields _ _ _) (Staging.reportUntimed_notes _ _ _) fun _ =>
      .bind (Staging.reportUntimed_yields _ _ _) (Staging.reportUntimed_notes _ _ _) fun _ =>
      scenes).congr fun key => ?_
    simp [admission_succeeds]
  rw [stage_eq]
  refine (Edit.Notes.bind (prepared_yields audience dialogue timing source) prepared
    fun made => concluded_notes source replace made).congr fun key => ?_
  simp

end Desk

/-- A request to a reader: two documents for one of many stores. -/
structure Request (ι : Type) where
  store : ι
  dialogue : Dialogue
  timing : Timing
  source : ScriptSource
  replace : Bool

/-- A cue for the speaker is come to while the request is served, there is a text for it, and its
documents have no display name for the speaker. -/
structure Request.Meets (request : Request ι) (key : String) : Prop where
  admitted : request.source.format = .json ∧ 0 ≤ request.source.language
  reaches : Staging.Reaches request.dialogue request.timing key

/-- A reader with the stores that it serves, and what has come of all requests so far. -/
structure Reader (ι : Type) where
  stores : ι → ScriptStore
  reported : List String := []
  results : List (Except Fault Script) := []
  journal : List Entry := []

namespace Reader
variable {ι : Type} [DecidableEq ι] (audience : Option Audience)

def serve (reader : Reader ι) (request : Request ι) : Reader ι :=
  let outcome := Desk.stage audience request.dialogue request.timing request.source request.replace
    ⟨reader.stores request.store, reader.reported⟩
  { stores := Function.update reader.stores request.store outcome.state.store
    reported := outcome.state.reported
    results := reader.results ++ [outcome.result]
    journal := reader.journal ++ outcome.journal }

/-- Another reader for the same stores. -/
def renewed (reader : Reader ι) : Reader ι := { reader with reported := [] }

def run (requests : List (Request ι)) (reader : Reader ι) : Reader ι :=
  requests.foldl (serve audience) reader

/-- Each request goes to a reader of its own. -/
def runRenewed (requests : List (Request ι)) (reader : Reader ι) : Reader ι :=
  requests.foldl (fun reader => serve audience reader.renewed) reader

variable {audience}

/-- What a reader has reported is what it remembers, and it is what there was cause to report. -/
def Reports (audience : Option Audience) (cause : String → Prop) (reader : Reader ι) : Prop :=
  Noted audience cause [] reader.reported reader.reported reader.journal

theorem Reports.serve {reader : Reader ι} {cause : String → Prop}
    (reports : reader.Reports audience cause) (request : Request ι) :
    (reader.serve audience request).Reports audience fun key => cause key ∨ request.Meets key := by
  obtain ⟨new, noted⟩ := Desk.stage_notes request.dialogue request.timing request.source
    request.replace ⟨reader.stores request.store, reader.reported⟩
  have both := reports.append noted
  rw [← noted.grown] at both
  refine both.congr fun key => or_congr_right ?_
  constructor
  · rintro ⟨admitted, reaches⟩
    exact ⟨admitted, reaches⟩
  · exact fun meets => ⟨meets.admitted, meets.reaches⟩

theorem Reports.run {reader : Reader ι} {cause : String → Prop}
    (reports : reader.Reports audience cause) (requests : List (Request ι)) :
    (reader.run audience requests).Reports audience fun key =>
      cause key ∨ ∃ request ∈ requests, request.Meets key := by
  induction requests generalizing reader cause with
  | nil => exact Noted.congr reports fun key => by simp
  | cons request requests ih =>
    exact (ih (reports.serve request)).congr fun key => by simp [or_assoc]

/-- Readers with the same stores and the same results. -/
structure Same (first second : Reader ι) : Prop where
  stores : first.stores = second.stores
  results : first.results = second.results

theorem Same.serve {first second : Reader ι} (same : first.Same second) (request : Request ι) :
    (first.serve audience request).Same (second.serve audience request) := by
  obtain ⟨stores, results⟩ := same
  constructor
  · simp only [Reader.serve, Desk.stage_store, stores]
  · simp only [Reader.serve, Desk.stage_result, stores, results]

theorem Same.run {first second : Reader ι} (same : first.Same second)
    (requests : List (Request ι)) :
    (first.run audience requests).Same (second.runRenewed audience requests) := by
  induction requests generalizing first second with
  | nil => exact same
  | cons request requests ih =>
    have renewed : first.Same second.renewed := ⟨same.stores, same.results⟩
    exact ih (renewed.serve request)

end Reader

/-- However many requests a reader serves, for whichever stores and with whatever success, it reports
each speaker once, and it reports those without a display name that some request comes to. No store
and no result is other than if each request had had a reader of its own. -/
theorem unknown_speakers_are_reported_once {ι : Type} [DecidableEq ι] (audience : Option Audience)
    (stores : ι → ScriptStore) (requests : List (Request ι)) :
    let served := Reader.run audience requests { stores }
    let apart := Reader.runRenewed audience requests { stores }
    (∃ keys : List String, keys.Nodup ∧
      (∀ key, key ∈ keys ↔ ∃ request ∈ requests, request.Meets key) ∧
      speakerReports served.journal = reportsOf audience keys) ∧
    served.stores = apart.stores ∧ served.results = apart.results := by
  intro served apart
  have start : (⟨stores, [], [], []⟩ : Reader ι).Reports audience fun _ => False := .nothing rfl
  have reports : Noted _ _ _ _ _ _ := start.run requests
  have same : served.Same apart := Reader.Same.run ⟨rfl, rfl⟩ requests
  have named (key : String) :
      key ∈ served.reported ↔ ∃ request ∈ requests, request.Meets key := by
    simpa using reports.fresh key
  exact ⟨⟨served.reported, reports.distinct, named, reports.told⟩, same.stores, same.results⟩

/-- The first request stops where there is no second text, with the first speaker reported; the
second one is for another store. -/
example :
    let request (store : Bool) (texts : List String) (cues : List Cue) : Request Bool :=
      { store, source := { language := 0 }, replace := false
        dialogue := { cutscenes := .ofList [("a", texts)] }
        timing := { cutscenes := .ofList [("a", cues)] } }
    let requests := [request true ["x"] [⟨1, false, "jak", false⟩, ⟨2, false, "lost", false⟩],
      request false ["x", "y"] [⟨1, false, "jak", false⟩, ⟨2, false, "dax", false⟩]]
    let served := Reader.run none requests ⟨fun _ => .new none none, [], [], []⟩
    speakerReports served.journal = [.log (.unknownSpeaker "jak"), .log (.unknownSpeaker "dax")] ∧
      served.results.map Except.toBool = [false, true] := by decide +kernel

end Libretto
