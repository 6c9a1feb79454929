import HttpScenario.Json.Writer
import HttpScenario.Text.Quoted

namespace HttpScenario

structure Record where
  url : String
  method : String
  status : UInt16
  description : Option String := none
  headers : Option (Members Json) := none
  cookies : Option (Members Json) := none
  request : Option Json := none
  response : Option Json := none
  responseHeaders : Option (Members Json) := none
  allowRedirects : Bool := true

namespace Record

inductive Expected where
  | text
  | status
  | object
  | flag
  | record
deriving DecidableEq

def Expected.label : Expected → String
  | .text => "a string"
  | .status => "u16"
  | .object => "a map"
  | .flag => "a boolean"
  | .record => "struct ScenarioRecord"

inductive Fault where
  | missing (field : String)
  | wrongKind (found : Json) (expected : Expected)
  | outOfRange (n : Int) (expected : Expected)
  | tooShort (length : Nat)
  | tooLong (length : Nat)

def describe : Json → String
  | .null => "null"
  | .bool true => "boolean `true`"
  | .bool false => "boolean `false`"
  | .num (.int n) => s!"integer `{n}`"
  | .num (.float x) => s!"floating point `{String.ofList x.write}`"
  | .str s => s!"string {Text.quote s}"
  | .arr _ => "sequence"
  | .obj _ => "map"

def Fault.text : Fault → String
  | .missing field => s!"missing field `{field}`"
  | .wrongKind found expected => s!"invalid type: {describe found}, expected {expected.label}"
  | .outOfRange n expected => s!"invalid value: integer `{n}`, expected {expected.label}"
  | .tooShort length =>
      s!"invalid length {length}, expected struct ScenarioRecord with 10 elements"
  | .tooLong length => s!"invalid length {length}, expected fewer elements in array"

def asText : Json → Except Fault String
  | .str s => .ok s
  | v => .error (.wrongKind v .text)

def asStatus : Json → Except Fault UInt16
  | .num (.int n) =>
      if 0 ≤ n ∧ n < UInt16.size then .ok (UInt16.ofNat n.toNat)
      else .error (.outOfRange n .status)
  | v => .error (.wrongKind v .status)

def asObject : Json → Except Fault (Members Json)
  | .obj members => .ok members
  | v => .error (.wrongKind v .object)

def asFlag : Json → Except Fault Bool
  | .bool b => .ok b
  | v => .error (.wrongKind v .flag)

def asOptional {α : Type} (decode : Json → Except Fault α) : Json → Except Fault (Option α)
  | .null => .ok none
  | v => (decode v).map some

/-- The fields in the order in which an array gives them. -/
inductive Field where
  | url
  | method
  | status
  | description
  | headers
  | cookies
  | request
  | response
  | responseHeaders
  | allowRedirects
deriving DecidableEq

def Field.all : List Field :=
  [.url, .method, .status, .description, .headers, .cookies, .request, .response,
    .responseHeaders, .allowRedirects]

def Field.name : Field → String
  | .url => "url"
  | .method => "method"
  | .status => "status"
  | .description => "description"
  | .headers => "headers"
  | .cookies => "cookies"
  | .request => "request"
  | .response => "response"
  | .responseHeaders => "response_headers"
  | .allowRedirects => "allow_redirects"

def Field.check (value : Json) : Field → Except Fault Unit
  | .url | .method => (asText value).map fun _ => ()
  | .status => (asStatus value).map fun _ => ()
  | .description => (asOptional asText value).map fun _ => ()
  | .headers | .cookies | .responseHeaders =>
      (asOptional asObject value).map fun _ => ()
  | .request | .response => .ok ()
  | .allowRedirects => (asFlag value).map fun _ => ()

def build (value? : Field → Option Json) (absent : Field → Fault) : Except Fault Record := do
  let required (field : Field) : Except Fault Json :=
    match value? field with
    | some v => .ok v
    | none => .error (absent field)
  let optional {α : Type} (decode : Json → Except Fault α) (field : Field) :
      Except Fault (Option α) :=
    match value? field with
    | some v => asOptional decode v
    | none => .ok none
  let url ← asText (← required .url)
  let method ← asText (← required .method)
  let status ← asStatus (← required .status)
  let description ← optional asText .description
  let headers ← optional asObject .headers
  let cookies ← optional asObject .cookies
  let request ← optional .ok .request
  let response ← optional .ok .response
  let responseHeaders ← optional asObject .responseHeaders
  let allowRedirects ←
    match value? .allowRedirects with
    | some v => asFlag v
    | none => .ok true
  return { url, method, status, description, headers, cookies, request, response,
           responseHeaders, allowRedirects }

/-- Checks members in their order. Members that are no fields are passed over. -/
def checkMembers : Members Json → Except Fault Unit
  | [] => .ok ()
  | (name, value) :: rest => do
      match Field.all.find? fun field => field.name == name with
      | some field => field.check value
      | none => pure ()
      checkMembers rest

def ofMembers (members : Members Json) : Except Fault Record := do
  checkMembers members
  build (fun field => Members.find? field.name members) fun field => .missing field.name

/-- A record may also be an array with the values of the fields in their order,
of which the last seven may be left out. -/
def ofItems (items : List Json) : Except Fault Record := do
  let record ← build (fun field => items[Field.all.idxOf field]?) fun _ => .tooShort items.length
  if Field.all.length < items.length then throw (.tooLong items.length)
  return record

def decode : Json → Except Fault Record
  | .obj members => ofMembers members
  | .arr items => ofItems items
  | v => .error (.wrongKind v .record)

end Record

end HttpScenario
