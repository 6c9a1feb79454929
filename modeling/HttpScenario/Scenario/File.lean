import HttpScenario.Failure
import HttpScenario.Json.Reader

namespace HttpScenario.ScenarioFile

def load (files : Files) (path : String) : Except Failure (Members Json) :=
  match files.readText path with
  | .error fault => .error (.unreadable path fault)
  | .ok text =>
      match Json.parse text with
      | .error e => .error (.json e)
      | .ok (.obj records) => .ok records
      | .ok _ => .error (.scenarioFormat path .notObject)

def record (files : Files) (path name : String) : Except Failure Json := do
  let records ← load files path
  match Members.find? name records with
  | some record => .ok record
  | none => .error (.scenarioNotFound name path)

end HttpScenario.ScenarioFile
