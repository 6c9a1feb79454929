import HttpScenario.Scenario.Body
import HttpScenario.Scenario.Edits
import HttpScenario.Scenario.File
import HttpScenario.Scenario.Placeholder
import HttpScenario.Scenario.TestCase

namespace HttpScenario

/-- How the bodies of scenarios are read: as they are, or with placeholders. -/
inductive Format where
  | plain
  | template
deriving DecidableEq

/-- A record with its bodies resolved. -/
structure Loaded where
  name : String
  filePath : String
  record : Record
  request : Option String
  response : Option String

namespace Loaded

def load (files : Files) (directory file name : String) : Except Failure Loaded := do
  let filePath := joinPath directory file
  let stored ← ScenarioFile.record files filePath name
  let record ← (Record.decode stored).mapError fun fault =>
    .scenarioFormat name (.record fault)
  let request ← resolveBody files directory name BodyField.request.name record.request
  let response ← resolveBody files directory name BodyField.response.name record.response
  return { name, filePath, record, request, response }

def fillBody (values : Table Json) (body : Option String) : Option String :=
  if values.isEmpty then body else body.map (Placeholder.fillBody values)

def fill (loaded : Loaded) (edits : Edits) : Loaded :=
  { loaded with
    request := fillBody edits.requestVariables loaded.request
    response := fillBody edits.responseVariables loaded.response }

/-- The headers that a reply is expected to have: those of the record with the
edits, or none when there are neither. -/
def expectedHeaders (loaded : Loaded) (edits : List (String × Json)) :
    Except Failure (Option (Members Json)) :=
  match loaded.record.responseHeaders with
  | some members => (Edits.editObject loaded.name .responseHeaders edits members).map some
  | none =>
      if edits.isEmpty then .ok none
      else (Edits.editObject loaded.name .responseHeaders edits []).map some

def texts? (name : String) (field : MapField) (lowerKeys : Bool) :
    Option (Members Json) → Except Failure (Option (Table String))
  | none => .ok none
  | some members => (textMap name field.name lowerKeys members).map some

def toTestCase (loaded : Loaded) (edits : Edits) : Except Failure TestCase := do
  let name := loaded.name
  let record := loaded.record
  let requestBody ← Edits.editBody name .request edits.request loaded.request
  let expectedBody ← Edits.editBody name .response edits.response loaded.response
  let headers ← Edits.editObject name .headers edits.requestHeaders (record.headers.getD [])
  let headers ← textMap name MapField.headers.name true headers
  let expectedHeaders ← loaded.expectedHeaders edits.responseHeaders
  let expectedHeaders ← texts? name .responseHeaders true expectedHeaders
  let cookies ← texts? name .cookies false record.cookies
  return {
    name
    url := record.url
    method := record.method
    allowRedirects := record.allowRedirects
    headers
    cookies := cookies.getD ∅
    requestBody
    expectedStatus := record.status
    expectedBody
    expectedHeaders
    filePath := loaded.filePath
    description := record.description }

end Loaded

/-- Loads a scenario. Placeholders are filled before values are set by path. -/
def TestCase.load (format : Format) (files : Files) (directory file name : String)
    (edits : Edits) : Except Failure TestCase := do
  let loaded ← Loaded.load files directory file name
  match format with
  | .plain => loaded.toTestCase edits
  | .template => (loaded.fill edits).toTestCase edits

end HttpScenario
