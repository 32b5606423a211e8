import Libretto.Proofs.FailedLoads

/-! Runs of calls on a store, in any order and with any arguments, among them calls that
fail. -/
namespace Libretto

/-- A call on a script that a store holds. Whoever gets hold of a scene of it may do with it
whatever scenes allow. -/
inductive ScriptCall
  | add (scene : Scene)
  | update (scene : Scene)
  | alter (name : String) (change : Scene → Scene)

def ScriptCall.perform : ScriptCall → Edit Script Unit
  | add scene => discard (Script.addScene scene)
  | update scene => discard (Script.updateScene scene)
  | alter name change => Edit.modify fun script => script.changeScene name change

/-- A call on a store, or on what reads scripts into it. A script is made before it is added,
with any scenes, and a grouping changes on its own. -/
inductive Call
  | addScript (script : Script)
  | onScript (language : Int) (call : ScriptCall)
  | stage (audience : Option Audience) (dialogue : Dialogue) (timing : Timing)
      (source : ScriptSource) (replace : Bool)
  | load (audience : Option Audience) (files : FileTree) (source : ScriptSource) (replace : Bool)
  | assignGroups
  | regroup (grouping : Option Grouping)
  | newReader

def Call.perform : Call → Edit Desk Unit
  | addScript script => discard (Desk.onStore (ScriptStore.addScript script))
  | onScript language call => do
    let desk ← Edit.get
    match desk.store.script? language with
    | none => return ()
    | some script => Desk.onStore (ScriptStore.amend script call.perform)
  | stage audience dialogue timing source replace =>
    discard (Desk.stage audience dialogue timing source replace)
  | load audience files source replace => discard (Desk.load audience files source replace)
  | assignGroups => Desk.onStore ScriptStore.assignGroups
  | regroup grouping => Edit.modify fun desk => { desk with store := { desk.store with grouping } }
  | newReader => Edit.modify fun desk => { desk with reported := [] }

theorem Script.changeScene_language (script : Script) (name : String) (change : Scene → Scene) :
    (script.changeScene name change).language = script.language := by
  unfold changeScene
  split <;> rfl

theorem Script.changeScene_audience (script : Script) (name : String) (change : Scene → Scene) :
    (script.changeScene name change).audience = script.audience := by
  unfold changeScene
  split <;> rfl

namespace Desk

/-- The desk after a run of calls. One that fails keeps what it had done. -/
def run (desk : Desk) (calls : List Call) : Desk :=
  calls.foldl (fun desk call => (call.perform desk).state) desk

/-- What a run of calls on a new store leads to. -/
def Reachable (desk : Desk) : Prop :=
  ∃ grouping audience calls, desk = run ⟨ScriptStore.new grouping audience, []⟩ calls

end Desk

end Libretto
