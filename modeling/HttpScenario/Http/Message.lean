import HttpScenario.Http.Method
import HttpScenario.Json.Reader
import HttpScenario.Table

namespace HttpScenario

structure Request where
  url : String
  timeoutSeconds : Nat
  allowRedirects : Bool
  headers : Table String
  cookies : Table String
deriving DecidableEq

structure Call where
  method : Method
  request : Request
  body : Option String
deriving DecidableEq

/-- What came back. The names of headers are in small letters. -/
structure Reply where
  status : UInt16 := 0
  headers : Table String := ∅
  text : String := ""
deriving DecidableEq

/-- Whether a content type is JSON: `application/json`, or any media type with
the suffix `+json`. Parameters do not count. -/
def isJsonContentType (contentType : String) : Bool :=
  let mediaType := contentType.toList.takeWhile (· != ';')
  let mediaType := (Text.trimBlanks mediaType).map Char.toLower
  mediaType == "application/json".toList || "+json".toList.isSuffixOf mediaType

namespace Reply

def json (reply : Reply) : Except Json.ParseError Json := Json.parse reply.text

def contentType? (reply : Reply) : Option String := reply.headers.find? "content-type"

def isJson (reply : Reply) : Bool := reply.contentType?.any isJsonContentType

end Reply

def Table.ofHeaders (pairs : List (String × String)) : Table String :=
  Table.ofList (pairs.map fun pair => (Text.lower pair.1, pair.2))

end HttpScenario
