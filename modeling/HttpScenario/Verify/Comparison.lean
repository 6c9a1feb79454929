import HttpScenario.Scenario.TestCase
import HttpScenario.Json.Writer

namespace HttpScenario

abbrev BodyCheck := Outcome → Except String Unit

namespace Comparison

def absentText : String := "<None>"

def showBody : Option String → String
  | none => absentText
  | some text =>
      if text.isEmpty then absentText
      else
        match Json.parse text with
        | .ok v => v.pretty
        | .error _ => text

def showHeaders (headers : Table String) : String :=
  if headers.isEmpty then absentText
  else "\n".intercalate (headers.entries.map fun entry => s!"{entry.1}: {entry.2}")

def explain (outcome : Outcome) (reason : String) : String :=
  let description :=
    match outcome.testCase.description with
    | some text => [s!"Description: {text}"]
    | none => []
  "\n".intercalate <| description ++
    [reason, "", "Expected Response:", showBody outcome.testCase.expectedBody, "",
      "Actual Response:", showBody (some outcome.reply.text)]

def mismatch (outcome : Outcome) (kind : MismatchKind) (reason : String) : Mismatch where
  scenario := outcome.testCase.name
  kind
  explanation := explain outcome reason

def bodyMismatchText : String := "Response body does not match"

/-- Compares bodies as documents when the reply is JSON, and as texts otherwise.
Without an expected body everything matches. -/
def checkBody : BodyCheck := fun outcome =>
  match outcome.testCase.expectedBody.filter (!·.isEmpty) with
  | none => .ok ()
  | some expected =>
      if outcome.reply.isJson then
        match Json.parse expected with
        | .error e => .error s!"Expected response is not valid JSON: {e.message}"
        | .ok expected =>
            match outcome.reply.json with
            | .error e => .error s!"Actual response is not valid JSON: {e.message}"
            | .ok actual =>
                if expected.same actual then .ok () else .error bodyMismatchText
      else if expected = outcome.reply.text then .ok ()
      else .error bodyMismatchText

def statusReason (expected actual : UInt16) : String :=
  s!"Expected status {expected}, got {actual}"

def headersReason (expected actual : Table String) : String :=
  s!"Response headers do not match\nExpected Headers:\n{showHeaders expected}\n\nActual Headers:\n{showHeaders actual}"

def check (bodyCheck : BodyCheck) (outcome : Outcome) : Except Mismatch Unit :=
  let expected := outcome.testCase
  let reply := outcome.reply
  if expected.expectedStatus ≠ reply.status then
    .error (mismatch outcome .status (statusReason expected.expectedStatus reply.status))
  else
    match bodyCheck outcome with
    | .error reason => .error (mismatch outcome .body reason)
    | .ok () =>
        match expected.expectedHeaders.filter (!·.isEmpty) with
        | none => .ok ()
        | some headers =>
            if headers = reply.headers then .ok ()
            else .error (mismatch outcome .headers (headersReason headers reply.headers))

end Comparison

end HttpScenario
