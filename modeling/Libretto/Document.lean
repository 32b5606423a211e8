import Libretto.FileTree.Directories
import Libretto.Json.Printer
import Libretto.Json.Reader

/-! Documents in files: a value read from a path, a value written to one. -/
namespace Libretto

def readValue (text : String) : Except Fault Value :=
  (Json.read text).mapError fun
    | .mistake mistake => .document mistake
    | .hugeInteger digits => .hugeInteger digits
    | .tooDeep container => .deepDocument container

/-- Faults that say which input is at fault. A text in another encoding and an integer
beyond the limit are not among them, nor is a document that is too deep. -/
def Fault.isUnreadable (fault : Fault) : Bool :=
  match fault.kind with
  | .missingFile | .existingFile | .isDirectory | .notDirectory | .system | .document => true
  | _ => false

namespace FileTree

def document (files : FileTree) (path : String) : Except Fault Value := do
  let text ← (files.readText path).mapError (Fault.file · path)
  readValue text

/-- Writes a value with a line feed behind it. -/
def writeDocument (path : String) (value : Value) : Edit FileTree Unit :=
  attempt path (·.writeText path (Json.text value ++ "\n"))

end FileTree

/-- A document for a purpose, or a fault that tells the purpose. The audience hears of it
first. -/
def loadDocument (audience : Option Audience) (files : FileTree) (medium : Medium)
    (path : String) : Edit σ Value :=
  match files.document path with
  | .ok value => return value
  | .error fault =>
    if fault.isUnreadable then do
      Edit.report audience (.unreadable medium path fault.message)
      Edit.fail (.unreadable medium path fault)
    else Edit.fail fault

end Libretto
