import HttpScenario.Scenario.TestCase
import HttpScenario.Json.Writer

namespace HttpScenario

/-! Bringing a scenario file up to date: the expectations of one record become
what the server answered. Everything else in the file stays. -/

namespace Reply

/-- How the body of a reply is stored: as a document when it is an array or an
object and said to be JSON, and as a text otherwise. An empty body is not stored. -/
def storedBody? (reply : Reply) : Option Json :=
  if reply.text.isEmpty then none
  else
    match reply.json with
    | .ok body =>
        if body.isContainer && reply.isJson then some body else some (.str reply.text)
    | .error _ => some (.str reply.text)

def storedHeaders (reply : Reply) : Json :=
  .obj (reply.headers.entries.map fun entry => (entry.1, .str entry.2))

def healRecord (reply : Reply) (withHeaders : Bool) (record : Members Json) : Members Json :=
  let record := record.put Record.Field.status.name (.ofNat reply.status.toNat)
  let record :=
    match reply.storedBody? with
    | none => record.erase Record.Field.response.name
    | some body => record.put Record.Field.response.name body
  if withHeaders then record.put Record.Field.responseHeaders.name reply.storedHeaders
  else record

end Reply

namespace ScenarioFile

def readForHealing (files : Files) (path : String) : Except HealFault (Members Json) :=
  match files.readText path with
  | .error fault => .error (.unreadable fault)
  | .ok text =>
      match Json.parse text with
      | .error e => .error (.notJson e)
      | .ok (.obj records) => .ok records
      | .ok _ => .error .notObject

def healRecords (name : String) (reply : Reply) (withHeaders : Bool)
    (records : Members Json) : Except HealFault (Members Json) :=
  match Members.find? name records with
  | some (.obj record) => .ok (records.put name (.obj (reply.healRecord withHeaders record)))
  | _ => .error (.noRecord name)

def text (records : Members Json) : String := (Json.obj records).pretty ++ "\n"

def rewrite (path name : String) (reply : Reply) (withHeaders : Bool) : Work HealFault Unit := do
  let records ← ofExcept (readForHealing (← get) path)
  let healed ← ofExcept (healRecords name reply withHeaders records)
  (Work.writeText path (text healed)).adaptExcept .unwritable

def heal (files : Files) (path name : String) (reply : Reply) (withHeaders : Bool) :
    Except HealFault Files :=
  (rewrite path name reply withHeaders).outcome files

end ScenarioFile

namespace Outcome

def rewrite (outcome : Outcome) (withHeaders : Bool) : Work HealFailure Unit :=
  let path := outcome.testCase.filePath
  (ScenarioFile.rewrite path outcome.testCase.name outcome.reply withHeaders).adaptExcept
    (⟨path, ·⟩)

def heal (files : Files) (outcome : Outcome) (withHeaders : Bool) : Except HealFailure Files :=
  (outcome.rewrite withHeaders).outcome files

end Outcome

end HttpScenario
