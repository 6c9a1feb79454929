import HttpScenario.Failure
import HttpScenario.Json.Writer
import HttpScenario.Text.Blank

namespace HttpScenario

def referenceMark : List Char := "file::".toList

def reference? (text : String) : Option String :=
  (referenceMark.isPrefixOf? text.toList).map String.ofList

/-- The text that a body of a record stands for. A reference is followed from
`directory`, and the blanks at both ends of the file are left out. -/
def resolveBody (files : Files) (directory name field : String) :
    Option Json → Except Failure (Option String)
  | none => .ok none
  | some .null => .ok none
  | some (.str text) =>
      match reference? text with
      | none => .ok (some text)
      | some relative =>
          let path := joinPath directory relative
          match files.readText path with
          | .ok content => .ok (some (Text.trim content))
          | .error fault => .error (.unreadable path fault)
  | some body =>
      if body.isContainer then .ok (some body.compact)
      else .error (.scenarioFormat name (.bodyKind field))

end HttpScenario
