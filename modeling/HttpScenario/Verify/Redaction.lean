import HttpScenario.Json.Edit
import HttpScenario.Scenario.TestCase
import HttpScenario.Json.Writer

namespace HttpScenario

namespace Redaction

def removeAll (v : Json) : List String → Except PathError Json
  | [] => .ok v
  | path :: paths => do removeAll (← v.removeAt path .skip) paths

/-- A body without what paths address. A text that is no document stays, and so
does one from which nothing was removed. -/
def redactText (paths : List String) (text : String) : Except PathError String :=
  match Json.parse text with
  | .error _ => .ok text
  | .ok whole =>
      (removeAll whole paths).map fun redacted =>
        if redacted.same whole then text else redacted.compact

end Redaction

def Outcome.redact (outcome : Outcome) (paths : List String) : Except PathError Outcome :=
  if paths.isEmpty then .ok outcome
  else do
    let text ← Redaction.redactText paths outcome.reply.text
    let expectedBody ←
      match outcome.testCase.expectedBody with
      | none => .ok none
      | some body => (Redaction.redactText paths body).map some
    return {
      reply := { outcome.reply with text }
      testCase := { outcome.testCase with expectedBody } }

end HttpScenario
