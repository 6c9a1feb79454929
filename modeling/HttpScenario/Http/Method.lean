import HttpScenario.Failure
import HttpScenario.Text.Blank

namespace HttpScenario

inductive Method where
  | get
  | post
  | put
  | patch
  | delete
deriving DecidableEq

namespace Method

def all : List Method := [.get, .post, .put, .patch, .delete]

def name : Method → String
  | .get => "GET"
  | .post => "POST"
  | .put => "PUT"
  | .patch => "PATCH"
  | .delete => "DELETE"

def hasBody : Method → Bool
  | .post | .put | .patch => true
  | .get | .delete => false

/-- The method that a text names, apart from blanks around it and letter case. -/
def ofText? (text : String) : Option Method :=
  all.find? fun method => Text.lower method.name == Text.lower (Text.trim text)

def parse (text : String) : Except Failure Method :=
  match ofText? text with
  | some method => .ok method
  | none => .error (.unsupportedMethod text)

end Method

end HttpScenario
