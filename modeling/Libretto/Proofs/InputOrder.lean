import Libretto.Proofs.Deliveries

/-! The order of the inputs of a store. Whether a delivery gets into a store that has taken in
others hangs on it and each of them, one at a time: no scene may come to one language twice.
`Holding` says what the store has then, in words that do not tell which of them was first, the
version and the path of a script apart. -/
namespace Libretto

/-- Nothing of one delivery is in the way of the other. -/
def Delivery.Apart (a b : Delivery) : Prop :=
  a.source.language = b.source.language →
    ∀ first ∈ a.scenes, ∀ second ∈ b.scenes, first.name ≠ second.name

theorem Delivery.Apart.symm {a b : Delivery} (apart : a.Apart b) : b.Apart a :=
  fun same second inSecond first inFirst equal =>
    apart same.symm first inFirst second inSecond equal.symm

theorem Delivery.apart_of_names {a b : Delivery}
    (apart : ∀ name ∈ a.scenes.map Scene.name, name ∉ b.scenes.map Scene.name) : a.Apart b := by
  intro _ first inFirst second inSecond equal
  refine apart first.name (List.mem_map_of_mem inFirst) ?_
  rw [equal]
  exact List.mem_map_of_mem inSecond

/-- Deliveries that there can be in one store. -/
structure Compatible (deliveries : List Delivery) : Prop where
  writable : ∀ delivery ∈ deliveries, Numeral.isWritable delivery.source.language = true
  apart : deliveries.Pairwise Delivery.Apart

theorem Compatible.perm {a b : List Delivery} (perm : a.Perm b) (compatible : Compatible a) :
    Compatible b :=
  ⟨fun delivery member => compatible.writable delivery (perm.mem_iff.mpr member),
    (perm.pairwise_iff Delivery.Apart.symm).mp compatible.apart⟩

theorem Compatible.init {a b : List Delivery} (compatible : Compatible (a ++ b)) : Compatible a :=
  ⟨fun delivery member => compatible.writable delivery (List.mem_append_left b member),
    (List.pairwise_append.mp compatible.apart).1⟩

theorem Compatible.append {deliveries : List Delivery} {delivery : Delivery}
    (compatible : Compatible deliveries)
    (writable : Numeral.isWritable delivery.source.language = true)
    (apart : ∀ earlier ∈ deliveries, earlier.Apart delivery) :
    Compatible (deliveries ++ [delivery]) := by
  constructor
  · intro other member
    rcases List.mem_append.mp member with before | last
    · exact compatible.writable other before
    · exact List.mem_singleton.mp last ▸ writable
  · refine List.pairwise_append.mpr ⟨compatible.apart, List.pairwise_singleton .., ?_⟩
    intro earlier before other last
    exact List.mem_singleton.mp last ▸ apart earlier before

/-- One of the deliveries has the scene for a language. -/
def Brought (deliveries : List Delivery) (language : Int) (scene : Scene) : Prop :=
  ∃ delivery ∈ deliveries, delivery.source.language = language ∧ scene ∈ delivery.scenes

theorem brought_perm {a b : List Delivery} (perm : a.Perm b) (language : Int) (scene : Scene) :
    Brought a language scene ↔ Brought b language scene := by
  simp only [Brought, perm.mem_iff]

theorem brought_append (deliveries : List Delivery) (delivery : Delivery) (language : Int)
    (scene : Scene) : Brought (deliveries ++ [delivery]) language scene ↔
      Brought deliveries language scene ∨
        delivery.source.language = language ∧ scene ∈ delivery.scenes := by
  simp only [Brought, List.mem_append, List.mem_singleton]
  constructor
  · rintro ⟨other, before | rfl, there⟩
    · exact .inl ⟨other, before, there⟩
    · exact .inr there
  · rintro (⟨other, before, there⟩ | there)
    · exact ⟨other, .inl before, there⟩
    · exact ⟨delivery, .inr rfl, there⟩

theorem Delivery.find?_iff (delivery : Delivery) (name : String) (scene : Scene) :
    delivery.scenes.find? (·.name = name) = some scene ↔
      scene ∈ delivery.scenes ∧ scene.name = name := by
  constructor
  · intro found
    exact ⟨List.mem_of_find?_eq_some found, by simpa using List.find?_some found⟩
  · rintro ⟨member, rfl⟩
    exact Script.find?_name delivery.distinct member

/-- Where a script says it is from. -/
def Script.ComesFrom (script : Script) (source : ScriptSource) : Prop :=
  script.version = source.version ∧ script.path = source.dialoguePath

/-- Scripts of the same scenes in the same order. Where they say they are from may differ. -/
structure Script.Alike (a b : Script) : Prop where
  language : a.language = b.language
  audience : a.audience = b.audience
  scenes : ∀ name, a.scenes.find? name = b.scenes.find? name
  order : a.inGroupOrder = b.inGroupOrder

namespace ScriptStore
variable {start store after last : ScriptStore} {deliveries : List Delivery} {delivery : Delivery}

/-- No scene of the delivery is in the store. -/
def Lacks (store : ScriptStore) (delivery : Delivery) : Prop :=
  ∀ scene ∈ delivery.scenes, store.scene? delivery.source.language scene.name = none

/-- What there is of a script after a delivery for its language: the scenes of both, and the
rest as it was if there was one. -/
structure Extended (store : ScriptStore) (delivery : Delivery) (made : Script) : Prop where
  language : made.language = delivery.source.language
  scenes : ∀ name, made.scenes.find? name = (delivery.scenes.find? (·.name = name)).or
    (store.scene? delivery.source.language name)
  fresh : store.script? delivery.source.language = none →
    made.ComesFrom delivery.source ∧ made.audience = store.audience
  older : ∀ old, store.script? delivery.source.language = some old →
    made.version = old.version ∧ made.path = old.path ∧ made.audience = old.audience

theorem receive_ok_iff (delivery : Delivery) :
    (∃ after, store.receive delivery = .ok after) ↔
      Numeral.isWritable delivery.source.language = true ∧ store.Lacks delivery := by
  have fails : (∃ fault, Staging.accepted delivery.source false delivery.scenes store =
      .error fault) ↔ _ := Staging.accepted_fails_iff
  calc (∃ after, store.receive delivery = .ok after)
    _ ↔ ¬ ∃ fault, Staging.accepted delivery.source false delivery.scenes store =
        .error fault := by
      unfold receive
      cases Staging.accepted delivery.source false delivery.scenes store <;> simp [Except.map]
    _ ↔ _ := not_congr fails
    _ ↔ _ := by simp [Lacks]

theorem receive_extends (done : store.receive delivery = .ok after) :
    ∃ made, after = store.putScript made ∧ store.Extended delivery made := by
  have lacks : store.Lacks delivery := ((receive_ok_iff delivery).mp ⟨after, done⟩).2
  obtain ⟨made, accepted, rfl⟩ := map_ok done
  obtain ⟨-, -, made_eq⟩ := Staging.accepted_ok accepted
  refine ⟨made, rfl, ?_⟩
  constructor
  case language => exact Staging.accepted_language accepted
  case scenes =>
    intro name
    rw [made_eq, Script.find?_overrideAll _ _ delivery.distinct]
    cases found : delivery.scenes.find? (·.name = name) with
    | none => exact Staging.ground_scenes name
    | some scene =>
      have absent := lacks scene (List.mem_of_find?_eq_some found)
      simp only [Script.replacement, Staging.ground_scenes, absent, Option.some_or]
  case fresh =>
    intro absent
    rw [made_eq, Script.ComesFrom, Script.overrideAll_version, Script.overrideAll_path,
      Script.overrideAll_audience]
    simp [Staging.ground, absent, Staging.freshScript]
  case older =>
    intro old found
    rw [made_eq, Script.overrideAll_version, Script.overrideAll_path,
      Script.overrideAll_audience, Staging.ground_old found]
    exact ⟨rfl, rfl, rfl⟩

/-- What a store holds that has come from another one by deliveries alone. -/
structure Holding (start : ScriptStore) (deliveries : List Delivery) (store : ScriptStore) :
    Prop where
  compatible : Compatible deliveries
  scenes : ∀ language name scene, store.scene? language name = some scene ↔
    Brought deliveries language scene ∧ scene.name = name
  sourced : ∀ language, Option.Rel Script.ComesFrom (store.script? language)
    ((deliveries.map Delivery.source).find? (·.language = language))
  heard : ∀ language script, store.script? language = some script →
    script.audience = start.audience
  grouping : store.grouping = start.grouping
  audience : store.audience = start.audience

theorem Holding.nothing (bare : start.scripts = .empty) : Holding start [] start := by
  have absent (language : Int) : start.script? language = none := by
    rw [script?, bare]
    rfl
  constructor
  case compatible => exact ⟨by simp, .nil⟩
  case scenes => simp [scene?, absent, Brought]
  case sourced =>
    intro language
    rw [absent]
    exact .none
  case heard => simp [absent]
  case grouping => rfl
  case audience => rfl

/-- One delivery is let in if it is compatible with those before it. -/
theorem Holding.lets_in (holding : Holding start deliveries store)
    (compatible : Compatible (deliveries ++ [delivery])) :
    ∃ after, store.receive delivery = .ok after := by
  obtain ⟨-, -, apart⟩ := List.pairwise_append.mp compatible.apart
  refine (receive_ok_iff delivery).mpr ⟨compatible.writable delivery (by simp), ?_⟩
  intro scene member
  cases found : store.scene? delivery.source.language scene.name with
  | none => rfl
  | some other =>
    obtain ⟨⟨earlier, before, same, there⟩, equal⟩ := (holding.scenes ..).mp found
    exact absurd equal (apart earlier before delivery (by simp) same other there scene member)

theorem Holding.apart (holding : Holding start deliveries store) (lacks : store.Lacks delivery) :
    ∀ earlier ∈ deliveries, earlier.Apart delivery := by
  intro earlier before same first inFirst second inSecond equal
  have held := (holding.scenes delivery.source.language first.name first).mpr
    ⟨⟨earlier, before, same, inFirst⟩, rfl⟩
  rw [equal, lacks second inSecond] at held
  cases held

theorem Extended.scene?_iff {made : Script} (extended : store.Extended delivery made)
    (lacks : store.Lacks delivery) (name : String) (scene : Scene) :
    made.scenes.find? name = some scene ↔
      store.scene? delivery.source.language name = some scene ∨
        scene ∈ delivery.scenes ∧ scene.name = name := by
  rw [extended.scenes, ← delivery.find?_iff]
  cases found : delivery.scenes.find? (·.name = name) with
  | none => simp
  | some other =>
    obtain ⟨member, rfl⟩ := (delivery.find?_iff name other).mp found
    simp [lacks other member]

/-- A script stays with the source that it was made from. -/
theorem Extended.comesFrom {made : Script} {first : Option ScriptSource}
    (extended : store.Extended delivery made)
    (before : Option.Rel Script.ComesFrom (store.script? delivery.source.language) first) :
    Option.Rel Script.ComesFrom (some made) (first.or (some delivery.source)) := by
  cases found : store.script? delivery.source.language with
  | none =>
    rw [found] at before
    cases before
    exact .some (extended.fresh found).1
  | some old =>
    rw [found] at before
    cases before with
    | some comesFrom =>
      obtain ⟨version, path, -⟩ := extended.older old found
      exact .some ⟨version.trans comesFrom.1, path.trans comesFrom.2⟩

theorem Holding.received (holding : Holding start deliveries store)
    (done : store.receive delivery = .ok after) :
    Holding start (deliveries ++ [delivery]) after := by
  obtain ⟨writable, lacks⟩ := (receive_ok_iff delivery).mp ⟨after, done⟩
  obtain ⟨made, rfl, extended⟩ := receive_extends done
  -- The delivery is seen in the script of its own language alone, so look-ups split there.
  have here : (store.putScript made).script? delivery.source.language = some made := by
    rw [script?_putScript, if_pos extended.language]
  have elsewhere {language : Int} (other : delivery.source.language ≠ language) :
      (store.putScript made).script? language = store.script? language := by
    rw [script?_putScript, extended.language, if_neg other]
  constructor
  case compatible => exact holding.compatible.append writable (holding.apart lacks)
  case scenes =>
    intro language name scene
    rw [brought_append]
    by_cases same : delivery.source.language = language
    · subst same
      rw [scene?, here, Option.bind_some, extended.scene?_iff lacks, holding.scenes]
      grind
    · simp only [scene?, elsewhere same, same, false_and, or_false]
      exact holding.scenes language name scene
  case sourced =>
    intro language
    rw [List.map_append, List.find?_append]
    have before := holding.sourced language
    by_cases same : delivery.source.language = language
    · subst same
      rw [here]
      simpa using extended.comesFrom before
    · simpa [elsewhere same, same] using before
  case heard =>
    intro language script found
    by_cases same : delivery.source.language = language
    · subst same
      rw [here] at found
      cases found
      cases old : store.script? delivery.source.language with
      | none => exact (extended.fresh old).2.trans holding.audience
      | some script => exact (extended.older script old).2.2.trans (holding.heard _ script old)
    · rw [elsewhere same] at found
      exact holding.heard language script found
  case grouping => exact holding.grouping
  case audience => exact holding.audience

theorem Holding.receivedAll {more : List Delivery} (holding : Holding start deliveries store)
    (done : more.foldlM receive store = .ok last) : Holding start (deliveries ++ more) last := by
  induction more generalizing deliveries store with
  | nil =>
    cases done
    rwa [List.append_nil]
  | cons delivery more ih =>
    rw [List.foldlM_cons] at done
    obtain ⟨after, done, rest⟩ := bind_ok done
    have held := ih (holding.received done) rest
    rwa [List.append_assoc] at held

/-- A list of deliveries gets in as a whole. -/
theorem Holding.lets_all_in {more : List Delivery} (holding : Holding start deliveries store)
    (compatible : Compatible (deliveries ++ more)) :
    ∃ last, more.foldlM receive store = .ok last := by
  induction more generalizing deliveries store with
  | nil => exact ⟨store, rfl⟩
  | cons delivery more ih =>
    rw [← List.singleton_append, ← List.append_assoc] at compatible
    obtain ⟨after, done⟩ := holding.lets_in compatible.init
    obtain ⟨last, rest⟩ := ih (holding.received done) compatible
    refine ⟨last, ?_⟩
    rw [List.foldlM_cons, done]
    exact rest

theorem Holding.hasScript_iff (holding : Holding start deliveries store) (language : Int) :
    (store.script? language).isSome ↔
      ∃ delivery ∈ deliveries, delivery.source.language = language := by
  have sourced := holding.sourced language
  have known : ((deliveries.map Delivery.source).find? (·.language = language)).isSome ↔
      ∃ delivery ∈ deliveries, delivery.source.language = language := by simp
  rw [← known]
  generalize (deliveries.map Delivery.source).find? (·.language = language) = source at sourced ⊢
  generalize store.script? language = script at sourced ⊢
  cases sourced <;> simp

theorem Holding.find?_iff {script : Script} {language : Int}
    (holding : Holding start deliveries store) (found : store.script? language = some script)
    (name : String) (scene : Scene) : script.scenes.find? name = some scene ↔
      Brought deliveries language scene ∧ scene.name = name := by
  rw [← holding.scenes]
  simp [scene?, found]

section perm
variable {others : List Delivery} {grouping : Grouping} {other : ScriptStore}

/-- Stores that hold the same deliveries have the same scenes, each under its own name. -/
theorem Holding.alike {a b : Script} {language : Int} (perm : deliveries.Perm others)
    (one : Holding start deliveries store) (two : Holding start others other)
    (first : store.script? language = some a) (second : other.script? language = some b) :
    (a.assign grouping).Alike (b.assign grouping) := by
  have same (name : String) : a.scenes.find? name = b.scenes.find? name := by
    refine Option.ext fun scene => ?_
    rw [one.find?_iff first, two.find?_iff second, brought_perm perm]
  have assigned (name : String) : (a.assign grouping).scenes.find? name =
      (b.assign grouping).scenes.find? name := by
    rw [Script.find?_assign, Script.find?_assign, same]
  constructor
  case language => exact (store.own language a first).trans (other.own language b second).symm
  case audience => exact (one.heard language a first).trans (two.heard language b second).symm
  case scenes => exact assigned
  case order =>
    refine Script.inGroupOrder_eq assigned fun name scene found => ?_
    rw [Script.find?_assign] at found
    obtain ⟨bare, there, rfl⟩ := Option.map_eq_some_iff.mp found
    exact ((one.find?_iff first name bare).mp there).2

theorem Holding.grouped_alike (perm : deliveries.Perm others)
    (known : start.grouping = some grouping)
    (one : Holding start deliveries store) (two : Holding start others other) (language : Int) :
    Option.Rel Script.Alike (store.grouped.script? language) (other.grouped.script? language) := by
  rw [script?_grouped (one.grouping.trans known), script?_grouped (two.grouping.trans known)]
  have either : (store.script? language).isSome ↔ (other.script? language).isSome := by
    rw [one.hasScript_iff, two.hasScript_iff]
    simp only [perm.mem_iff]
  cases first : store.script? language with
  | none =>
    cases second : other.script? language with
    | none => exact .none
    | some b => simp [first, second] at either
  | some a =>
    cases second : other.script? language with
    | none => simp [first, second] at either
    | some b => exact .some (one.alike perm two first second)

end perm

/-- The sources that inputs describe. -/
def sources (inputs : List (Settings ⊕ ScriptSource)) : List ScriptSource :=
  inputs.filterMap fun input => (sourceOf input).toOption

theorem delivered_source {files : FileTree} {input : Settings ⊕ ScriptSource}
    (done : delivered files input = .ok delivery) : sourceOf input = .ok delivery.source := by
  obtain ⟨source, described, fetched⟩ := bind_ok done
  obtain ⟨⟨dialogue, timing⟩, -, packed⟩ := bind_ok fetched
  rw [described, packed_source packed]

theorem sources_delivered {files : FileTree} {inputs : List (Settings ⊕ ScriptSource)}
    (done : inputs.mapM (delivered files) = .ok deliveries) :
    sources inputs = deliveries.map Delivery.source := by
  have same : deliveries.map (fun delivery => some delivery.source) =
      inputs.map fun input => (sourceOf input).toOption := by
    refine mapM_ok_image done fun input delivery made => ?_
    rw [delivered_source made]
    rfl
  calc sources inputs
    _ = (inputs.map fun input => (sourceOf input).toOption).filterMap id := by
      rw [List.filterMap_map]
      rfl
    _ = (deliveries.map fun delivery => some delivery.source).filterMap id := by rw [same]
    _ = deliveries.map Delivery.source := by
      rw [List.filterMap_map]
      exact congrFun List.filterMap_eq_map deliveries

section setup
variable {audience : Option Audience} {files : FileTree} {groupsPath : Option String}
  {inputs others : List (Settings ⊕ ScriptSource)} {grouping : Grouping}

/-- A store that has been set up holds what its inputs deliver. -/
theorem setup_holds (done : (setup audience files groupsPath inputs).result = .ok ()) :
    ∃ grouping deliveries store, groupingAt files groupsPath = .ok grouping ∧
      inputs.mapM (delivered files) = .ok deliveries ∧
      Holding (blank audience grouping) deliveries store ∧
      (setup audience files groupsPath inputs).state.store = store.grouped := by
  have outcome := setup_eq audience files groupsPath inputs
  dsimp only at outcome
  rw [done] at outcome
  obtain ⟨grouping, found, rest⟩ := bind_ok outcome.symm
  obtain ⟨store, folded, last⟩ := bind_ok rest
  obtain ⟨deliveries, delivered, received⟩ := foldlM_ok_iff.mp folded
  have holding := (Holding.nothing rfl).receivedAll received
  exact ⟨grouping, deliveries, store, found, delivered, holding, (Except.ok.inj last).symm⟩

theorem setup_succeeds (found : groupingAt files groupsPath = .ok grouping)
    (delivers : inputs.mapM (delivered files) = .ok deliveries)
    (compatible : Compatible deliveries) :
    (setup audience files groupsPath inputs).result = .ok () := by
  have outcome := setup_eq audience files groupsPath inputs
  have bare : Holding (blank audience grouping) [] (blank audience grouping) := .nothing rfl
  obtain ⟨last, received⟩ := bare.lets_all_in compatible
  have folded : receiveAll files inputs (blank audience grouping) = .ok last :=
    foldlM_ok_iff.mpr ⟨deliveries, delivers, received⟩
  rw [found] at outcome
  change _ = (receiveAll files inputs (blank audience grouping) >>= _) at outcome
  rw [folded] at outcome
  obtain ⟨⟨⟩, done, -⟩ := map_ok outcome
  exact done

/-- Inputs that can be set up can be in any other order as well. -/
theorem setup_reordered (perm : inputs.Perm others)
    (done : (setup audience files groupsPath inputs).result = .ok ()) :
    (setup audience files groupsPath others).result = .ok () := by
  obtain ⟨grouping, deliveries, store, found, delivers, holding, -⟩ := setup_holds done
  obtain ⟨more, delivers, perm⟩ := mapM_ok_perm perm delivers
  exact setup_succeeds found delivers (holding.compatible.perm perm)

theorem Holding.grouped_comesFrom (holding : Holding start deliveries store)
    (known : start.grouping = some grouping) (language : Int) :
    Option.Rel Script.ComesFrom (store.grouped.script? language)
      ((deliveries.map Delivery.source).find? (·.language = language)) := by
  rw [script?_grouped (holding.grouping.trans known)]
  have sourced := holding.sourced language
  generalize (deliveries.map Delivery.source).find? (·.language = language) = source at sourced ⊢
  generalize store.script? language = script at sourced ⊢
  cases sourced with
  | none => exact .none
  | some comesFrom => exact .some comesFrom

/-- The order of the inputs of a store makes no difference, be they described or settings, and
whatever files and grouping there are. Either all orders succeed or none does. Then the stores
have the same scenes in the same order for the same languages; only the version and the path of
a script are those of the first input for its language. -/
theorem setup_in_any_order (audience : Option Audience) (files : FileTree)
    (groupsPath : Option String) {inputs others : List (Settings ⊕ ScriptSource)}
    (perm : inputs.Perm others) :
    let first := setup audience files groupsPath inputs
    let second := setup audience files groupsPath others
    (first.result = .ok () ↔ second.result = .ok ()) ∧
    (first.result = .ok () →
      first.state.store.grouping = second.state.store.grouping ∧
      ∀ language,
        Option.Rel Script.Alike (first.state.store.script? language)
          (second.state.store.script? language) ∧
        Option.Rel Script.ComesFrom (first.state.store.script? language)
          ((sources inputs).find? (·.language = language)) ∧
        Option.Rel Script.ComesFrom (second.state.store.script? language)
          ((sources others).find? (·.language = language))) := by
  intro first second
  refine ⟨⟨setup_reordered perm, setup_reordered perm.symm⟩, fun done => ?_⟩
  obtain ⟨grouping, deliveries, store, found, delivers, one, state⟩ := setup_holds done
  obtain ⟨_, more, other, same, delivered, two, later⟩ := setup_holds (setup_reordered perm done)
  cases found.symm.trans same
  obtain ⟨_, again, reordered⟩ := mapM_ok_perm perm delivers
  cases delivered.symm.trans again
  rw [sources_delivered delivers, sources_delivered delivered, state, later]
  refine ⟨?_, fun language => ⟨?_, ?_, ?_⟩⟩
  · rw [grouped_grouping, grouped_grouping, one.grouping, two.grouping]
  · exact one.grouped_alike reordered rfl two language
  · exact one.grouped_comesFrom rfl language
  · exact two.grouped_comesFrom rfl language

theorem swapped_inputs_make_scripts_alike :
    let files : FileTree := ⟨.ofList [
      (["texts".toList], .file "\x7b\"cutscenes\":\x7b\"a\":[\"hi\"]\x7d\x7d".toUTF8),
      (["a".toList], .file "\x7b\"cutscenes\":\x7b\"a\":[\x7b\"frame\":5\x7d]\x7d\x7d".toUTF8),
      (["b".toList], .file "\x7b\"cutscenes\":\x7b\"b\":[]\x7d\x7d".toUTF8)]⟩
    let one : ScriptSource :=
      { language := 0, version := "1", dialoguePath := "texts", timingPath := "a" }
    let two : ScriptSource := { one with version := "2", timingPath := "b" }
    let first := setup none files none [.inr one, .inr two]
    let second := setup none files none [.inr two, .inr one]
    first.result = .ok () ∧ second.result = .ok () ∧
      ∃ a b, first.state.store.script? 0 = some a ∧ second.state.store.script? 0 = some b ∧
        a.Alike b ∧ a.version = "1" ∧ b.version = "2" := by
  intro files one two first second
  let content (delivery : Delivery) :=
    (delivery.source.language, delivery.scenes.map Scene.name)
  have texts : files.document "texts" =
      .ok (.object [("cutscenes", .object [("a", .list [.str "hi"])])]) :=
    FileTree.document_of_text rfl (by decide +kernel) (by cbv)
  have atA : files.document "a" =
      .ok (.object [("cutscenes", .object [("a", .list [.object [("frame", .int 5)]])])]) :=
    FileTree.document_of_text rfl (by decide +kernel) (by cbv)
  have atB : files.document "b" =
      .ok (.object [("cutscenes", .object [("b", .list [])])]) :=
    FileTree.document_of_text rfl (by decide +kernel) (by cbv)
  let dialogue : Dialogue := { cutscenes := .ofList [("a", ["hi"])] }
  have readOne : Desk.documents files one =
      .ok (dialogue, { cutscenes := .ofList [("a", [⟨5, false, "", false⟩])] }) :=
    Desk.documents_of_values ⟨rfl, rfl⟩ rfl texts atA rfl rfl
  have readTwo : Desk.documents files two =
      .ok (dialogue, { cutscenes := .ofList [("b", [])] }) :=
    Desk.documents_of_values ⟨rfl, rfl⟩ rfl texts atB rfl rfl
  have fromOne : (delivered files (.inr one)).map content = .ok (0, ["a"]) := by
    simp only [delivered, sourceOf, fetched, bind, Except.bind, readOne]
    rfl
  have fromTwo : (delivered files (.inr two)).map content = .ok (0, ["b"]) := by
    simp only [delivered, sourceOf, fetched, bind, Except.bind, readTwo]
    rfl
  obtain ⟨a, deliversA, contentA⟩ := map_ok fromOne
  obtain ⟨b, deliversB, contentB⟩ := map_ok fromTwo
  obtain ⟨languageA, namesA⟩ := Prod.mk.inj contentA
  obtain ⟨languageB, namesB⟩ := Prod.mk.inj contentB
  have compatible : Compatible [a, b] := by
    constructor
    · simp only [List.forall_mem_cons, languageA, languageB]
      decide +kernel
    · refine List.pairwise_pair.mpr (Delivery.apart_of_names ?_)
      rw [namesA, namesB]
      decide
  have done : first.result = .ok () :=
    setup_succeeds rfl (mapM_cons_ok deliversA (mapM_cons_ok deliversB rfl)) compatible
  obtain ⟨both, agree⟩ := setup_in_any_order none files none
    (.swap (.inr two) (.inr one) [])
  obtain ⟨-, scripts⟩ := agree done
  obtain ⟨alike, fromOne, fromTwo⟩ := scripts 0
  change Option.Rel _ (first.state.store.script? 0) (second.state.store.script? 0) at alike
  change Option.Rel _ (first.state.store.script? 0) (some one) at fromOne
  change Option.Rel _ (second.state.store.script? 0) (some two) at fromTwo
  generalize first.state.store.script? 0 = x at *
  generalize second.state.store.script? 0 = y at *
  cases fromOne with
  | some fromOne =>
    cases fromTwo with
    | some fromTwo =>
      cases alike with
      | some alike => exact ⟨done, both.mp done, _, _, rfl, rfl, alike, fromOne.1, fromTwo.1⟩

end setup

end ScriptStore

end Libretto
