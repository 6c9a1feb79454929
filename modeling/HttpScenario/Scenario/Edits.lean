import HttpScenario.Failure
import HttpScenario.Json.Edit
import HttpScenario.Json.Reader
import HttpScenario.Json.Writer
import HttpScenario.Table

namespace HttpScenario

/-- What to change in a scenario when it is loaded: values by path, one after the
other, and values of variables. -/
structure Edits where
  request : List (String × Json) := []
  response : List (String × Json) := []
  requestHeaders : List (String × Json) := []
  responseHeaders : List (String × Json) := []
  requestVariables : Table Json := ∅
  responseVariables : Table Json := ∅

namespace Edits

/-- Sets values by path, one after the other. A path that leads nowhere changes
nothing. -/
def applyAll (v : Json) : List (String × Json) → Except PathError Json
  | [] => .ok v
  | (path, x) :: edits => do applyAll (← v.updateAt path x .skip) edits

/-- Changes a body, which has to be a document; a missing one begins as an empty
object. -/
def editBody (name : String) (field : BodyField) (edits : List (String × Json))
    (body : Option String) : Except Failure (Option String) :=
  if edits.isEmpty then .ok body
  else
    match Json.parse (body.getD "\x7b\x7d") with
    | .error e => .error (.scenarioFormat name (.bodyNotJson field e))
    | .ok document =>
        match applyAll document edits with
        | .error e => .error (.path e)
        | .ok changed => .ok (some changed.compact)

def editObject (name : String) (field : MapField) (edits : List (String × Json))
    (members : Members Json) : Except Failure (Members Json) :=
  match applyAll (.obj members) edits with
  | .error e => .error (.path e)
  | .ok (.obj changed) => .ok changed
  | .ok _ => .error (.scenarioFormat name (.objectLost field))

end Edits

end HttpScenario
