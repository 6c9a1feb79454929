import HttpScenario.Files
import HttpScenario.Json.ParseError
import HttpScenario.Json.Path
import HttpScenario.Scenario.Record

namespace HttpScenario

inductive BodyField where
  | request
  | response
deriving DecidableEq

def BodyField.name : BodyField → String
  | .request => "request"
  | .response => "response"

inductive MapField where
  | headers
  | cookies
  | responseHeaders
deriving DecidableEq

def MapField.name : MapField → String
  | .headers => "headers"
  | .cookies => "cookies"
  | .responseHeaders => "response_headers"

inductive FormatFault where
  | record (fault : Record.Fault)
  | notObject
  | bodyKind (field : String)
  | notScalar (field key : String)
  | bodyNotJson (field : BodyField) (error : Json.ParseError)
  | objectLost (field : MapField)

def notObjectText : String := "scenario file must contain a JSON object"

def FormatFault.text : FormatFault → String
  | .record fault => fault.text
  | .notObject => notObjectText
  | .bodyKind field => s!"`{field}` must be JSON, a string or a `file::` reference"
  | .notScalar field key => s!"`{field}.{key}` must be a scalar value"
  | .bodyNotJson field error =>
      s!"`{field.name}` must be JSON to apply modifiers: {error.message}"
  | .objectLost field => s!"`{field.name}` modifiers must keep an object"

/-- Why a scenario file could not be brought up to date. -/
inductive HealFault where
  | unreadable (fault : FileFault)
  | notJson (error : Json.ParseError)
  | notObject
  | noRecord (name : String)
  | unwritable (fault : FileFault)

def HealFault.text : HealFault → String
  | .unreadable fault => s!"read failed: {fault.message}"
  | .notJson error => s!"parse failed: {error.message}"
  | .notObject => notObjectText
  | .noRecord name => s!"no scenario object named `{name}`"
  | .unwritable fault => s!"write failed: {fault.message}"

structure HealFailure where
  path : String
  fault : HealFault

def HealFailure.message (e : HealFailure) : String :=
  s!"Failed to update scenario file `{e.path}`: {e.fault.text}"

inductive MismatchKind where
  | status
  | body
  | headers
deriving DecidableEq

def MismatchKind.name : MismatchKind → String
  | .status => "status"
  | .body => "body"
  | .headers => "headers"

/-- A reply that is not as expected. When the scenario file should have been
brought up to date and was not, `healFailure` tells why. -/
structure Mismatch where
  scenario : String
  kind : MismatchKind
  explanation : String
  healFailure : Option HealFailure := none

def Mismatch.message (e : Mismatch) : String :=
  let text := s!"Scenario `{e.scenario}` failed ({e.kind.name} mismatch)\n{e.explanation}"
  match e.healFailure with
  | none => text
  | some failure => s!"{text}\n\nScenario file was not updated: {failure.message}"

/-- What is wrong with a header that should be sent. A transport may have
reasons of its own. -/
inductive HeaderFault where
  | illegalName (name : String)
  | illegalValue (name : String)
  | illegalCookie
  | refused (reason : String)
deriving DecidableEq

def HeaderFault.text : HeaderFault → String
  | .illegalName name => s!"name `{name}`: invalid HTTP header name"
  | .illegalValue name => s!"value for `{name}`: failed to parse header value"
  | .illegalCookie => "cookie: failed to parse header value"
  | .refused reason => reason

inductive TransportFault where
  | noUrl
  | unsupportedUrl (url : String)
  | unreachable (url : String)
  | tooManyRedirects (url : String)
deriving DecidableEq

def TransportFault.text : TransportFault → String
  | .noUrl => "builder error"
  | .unsupportedUrl url => s!"builder error for url ({url})"
  | .unreachable url => s!"error sending request for url ({url})"
  | .tooManyRedirects url => s!"error following redirect for url ({url})"

inductive Failure where
  | path (error : PathError)
  | scenarioFormat (name : String) (fault : FormatFault)
  | scenarioNotFound (name path : String)
  | unsupportedMethod (text : String)
  | mismatch (mismatch : Mismatch)
  | heal (failure : HealFailure)
  | unreadable (path : String) (fault : FileFault)
  | header (fault : HeaderFault)
  | transport (fault : TransportFault)
  | json (error : Json.ParseError)
  | settings

def Failure.message : Failure → String
  | .path e => e.message
  | .scenarioFormat name fault => s!"Invalid scenario `{name}`: {fault.text}"
  | .scenarioNotFound name file => s!"Scenario `{name}` not found in `{file}`"
  | .unsupportedMethod text => s!"Unsupported HTTP method `{text}`"
  | .mismatch e => e.message
  | .heal e => e.message
  | .unreadable file fault => s!"Failed to read `{file}`: {fault.message}"
  | .header fault => s!"Invalid header {fault.text}"
  | .transport fault => s!"Request failed: {fault.text}"
  | .json e => s!"Invalid JSON: {e.message}"
  | .settings => "Invalid configuration"

end HttpScenario
