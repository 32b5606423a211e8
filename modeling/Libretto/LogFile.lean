import Libretto.FileTree.Directories

/-! Logs of test runs: a file that takes the records of a level and above from its opening
to its closing, and the records that tests write. -/
namespace Libretto

structure LogFile where
  path : String
  least : Level := .debug
  text : String := ""
  deriving Repr

namespace LogFile

/-- Opens a file in a directory, which is made if nothing is there. -/
def create (directory name : String) (least : Level) : Edit FileTree LogFile := do
  let files ← Edit.get
  if !files.holds directory.toList then FileTree.makeDirectories false directory
  let path := Path.normal (Path.below directory name)
  FileTree.attempt path (·.writeText path "")
  return { path, least }

/-- Leaves the text in the file. -/
def close (file : LogFile) : Edit FileTree Unit :=
  FileTree.attempt file.path (·.writeText file.path file.text)

def record (file : LogFile) (notice : Notice) : LogFile :=
  if notice.reaches file.least then { file with text := file.text ++ notice.line ++ "\n" }
  else file

/-- Takes the notices in the log of a journal. -/
def recordAll (file : LogFile) (journal : List Entry) : LogFile :=
  (notices journal).foldl record file

end LogFile

def separator : String := String.ofList (List.replicate 60 '-')

/-- The name of a test between two rules. -/
def testName (name : String) : List Entry :=
  [separator, name, separator].map fun text => .log (.words .info text)

def expectedResult (input expected result : Value) : List Entry :=
  [.log (.words .info (input.text ++ ":  expected: " ++ expected.text ++ "  result: " ++
    result.text))]

def expectedFault (input : Value) (expected found message : String) : List Entry :=
  [.log (.words .info (input.text ++ ":  expected: " ++ expected ++ "  error: " ++ found ++
    ": " ++ message))]

end Libretto
