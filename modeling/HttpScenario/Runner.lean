import HttpScenario.Settings

namespace HttpScenario

/-- What a run changes in a scenario: parameters of the URL, edits of what is
loaded, and at last edits of the test case, one after the other. -/
structure RunOptions where
  urlParameters : Table String := ∅
  edits : Edits := {}
  caseEdits : List (TestCase → TestCase) := []

/-- What loads a test case: from files, out of a directory, by the name of a scenario file
and the name of a scenario in it. -/
abbrev Parser := Files → (directory file name : String) → Edits → Except Failure TestCase

abbrev Transport := Call → Except Failure Reply

/-- Work that makes calls, which may fail. However it ends, it leaves the calls made so far. -/
abbrev Sending (α : Type) := EStateM Failure (List Call) α

def Transport.send (transport : Transport) (call : Call) : Sending Reply := fun made =>
  match transport call with
  | .ok reply => .ok reply (made ++ [call])
  | .error e => .error e (made ++ [call])

structure Attempt where
  result : Except Failure Outcome
  calls : List Call

def Sending.attempt (sending : Sending Outcome) : Attempt :=
  match sending [] with
  | .ok outcome calls => ⟨.ok outcome, calls⟩
  | .error e calls => ⟨.error e, calls⟩

/-- A runner loads scenarios by their format. Another parser may take its place. -/
structure Runner where
  settings : RunnerSettings
  format : Format := settings.format
  parser : Parser := TestCase.load format

namespace Runner

/-- A default content type is for test cases without one. -/
def addContentType (settings : RunnerSettings) (testCase : TestCase) : TestCase :=
  match settings.defaultContentType with
  | none => testCase
  | some contentType =>
      { testCase with headers := testCase.headers.insertNew "content-type" contentType }

def fillUrl (parameters : Table String) (testCase : TestCase) : TestCase :=
  if parameters.isEmpty then testCase
  else { testCase with url := Placeholder.fillUrl parameters testCase.url }

def prepare (runner : Runner) (files : Files) (file name : String) (options : RunOptions) :
    Except Failure TestCase := do
  let loaded ← runner.parser files runner.settings.scenariosDirectory file name options.edits
  let ready := fillUrl options.urlParameters (addContentType runner.settings loaded)
  return options.caseEdits.foldl (fun testCase edit => edit testCase) ready

def callOf (settings : RunnerSettings) (method : Method) (testCase : TestCase) : Call where
  method
  request := {
    url := testCase.url
    timeoutSeconds := settings.timeoutSeconds
    allowRedirects := testCase.allowRedirects
    headers := testCase.headers
    cookies := testCase.cookies }
  body := if method.hasBody then some (testCase.requestBody.getD "") else none

def sendCase (runner : Runner) (transport : Transport) (testCase : TestCase) :
    Sending Outcome := do
  let method ← ofExcept (Method.parse testCase.method)
  let reply ← transport.send (callOf runner.settings method testCase)
  return ⟨reply, testCase⟩

def execute (runner : Runner) (transport : Transport) (testCase : TestCase) : Attempt :=
  (runner.sendCase transport testCase).attempt

def run (runner : Runner) (transport : Transport) (files : Files) (file name : String)
    (options : RunOptions) : Attempt :=
  Sending.attempt do
    let testCase ← ofExcept (runner.prepare files file name options)
    runner.sendCase transport testCase

end Runner

end HttpScenario
