import Libretto.ScriptImport
import Libretto.TextImport

/-! Whole stores from lists of inputs. -/
namespace Libretto

def version : String := "v0.3.1"

/-- Reports of a store that nobody listens to go to the log. -/
def defaultAudience : Audience := ⟨false, true⟩

namespace TextStore

/-- An input comes described, or as settings that describe it. -/
def sourceOf : Settings ⊕ TextSource → Except Fault TextSource
  | .inl settings => TextSource.ofSettings settings
  | .inr source => .ok source

def loadAll (audience : Option Audience) (files : FileTree)
    (inputs : List (Settings ⊕ TextSource)) : Edit TextStore Unit :=
  inputs.forM fun input => do
    let source ← Edit.ofExcept (sourceOf input)
    discard (load audience files source)

/-- A store of all the inputs. -/
def setup (audience : Option Audience) (files : FileTree)
    (inputs : List (Settings ⊕ TextSource)) : Outcome TextStore Unit :=
  let audience := some (audience.getD defaultAudience)
  loadAll audience files inputs (new audience)

end TextStore

namespace ScriptStore

def sourceOf : Settings ⊕ ScriptSource → Except Fault ScriptSource
  | .inl settings => ScriptSource.ofSettings settings
  | .inr source => .ok source

def loadAll (audience : Option Audience) (files : FileTree)
    (inputs : List (Settings ⊕ ScriptSource)) : Edit Desk Unit :=
  inputs.forM fun input => do
    let source ← Edit.ofExcept (sourceOf input)
    discard (Desk.load audience files source false)

/-- Replaces the grouping by the one in a file, if there is a path. -/
def loadGrouping (files : FileTree) (path : Option String) : Edit Grouping Unit :=
  match path with
  | none => return ()
  | some path => if path.isEmpty then return () else Grouping.load files path

/-- A store of all the inputs, its scenes grouped by the grouping in a file. -/
def setup (audience : Option Audience) (files : FileTree) (groupsPath : Option String)
    (inputs : List (Settings ⊕ ScriptSource)) : Outcome Desk Unit :=
  let audience := some (audience.getD defaultAudience)
  let start : Desk := ⟨new none audience, []⟩
  let edit : Edit Desk Unit := do
    let grouping ← Edit.apart (loadGrouping files groupsPath) Grouping.standard
    Edit.modify fun desk => { desk with store := { desk.store with grouping := some grouping } }
    loadAll audience files inputs
    Desk.onStore assignGroups
  edit start

/-- Where a script that was built by hand says it comes from. -/
def builtPath (language : Int) : String := "subtitles/lang" ++ toString language ++ ".json"

/-- A store with a script for each language and groups filled one scene at a time. -/
def build (scripts : OrderedMap Int (List Scene)) (groups : OrderedMap String (List String)) :
    Outcome ScriptStore Unit :=
  let addGroups : Edit Grouping Unit :=
    groups.entries.forM fun (group, scenes) =>
      scenes.forM fun scene => do
        let grouping ← Edit.get
        Edit.set (← Edit.ofExcept (grouping.addScene group scene))
  let edit : Edit ScriptStore Unit := do
    let grouping ← Edit.apart addGroups Grouping.standard
    Edit.modify fun store => { store with grouping := some grouping }
    scripts.entries.forM fun (language, scenes) => do
      Edit.nameable language
      let script ← Edit.apart (scenes.forM fun scene => discard (Script.addScene scene)) {
        language, version := defaultVersion, path := builtPath language }
      discard (addScript script)
  edit (new none none)

end ScriptStore

end Libretto
