import HttpScenario.Http.Message

namespace HttpScenario

structure TestCase where
  name : String
  url : String
  method : String
  allowRedirects : Bool
  headers : Table String
  cookies : Table String
  requestBody : Option String
  expectedStatus : UInt16
  expectedBody : Option String
  expectedHeaders : Option (Table String)
  filePath : String
  description : Option String
deriving DecidableEq

structure Outcome where
  reply : Reply
  testCase : TestCase
deriving DecidableEq

namespace TestCase

def bodyJson (body : Option String) : Except Failure Json :=
  (Json.parse (body.getD "null")).mapError .json

def requestJson (testCase : TestCase) : Except Failure Json := bodyJson testCase.requestBody

def expectedJson (testCase : TestCase) : Except Failure Json := bodyJson testCase.expectedBody

end TestCase

end HttpScenario
