import HttpScenario.Http.Header
import HttpScenario.Text.Base64
import HttpScenario.Url.Reader

namespace HttpScenario

structure RawReply where
  status : UInt16
  headers : List (String × List UInt8)
  body : List UInt8

/-- A server: where it is reached, and its replies, one for each request. -/
structure Server where
  authority : String
  replies : List RawReply

structure Received where
  method : Method
  target : String
  headers : List (String × String)
  body : String
deriving DecidableEq

structure Pending where
  method : Method
  url : Url
  headers : Table String
  authorization : Option String
  cookieLine : Option String
  body : Option String

namespace Pending

def sortLines (lines : List (String × String)) : List (String × String) :=
  lines.mergeSort fun a b => a.1 ≤ b.1

def lines (pending : Pending) : List (String × String) :=
  let own := pending.headers
  let unlessOwn (name value : String) : List (String × String) :=
    if own.contains name then [] else [(name, value)]
  let cookies :=
    match pending.cookieLine with
    | some line => [("cookie", line)]
    | none => []
  let length :=
    match pending.body with
    | some body => unlessOwn "content-length" (toString body.utf8ByteSize)
    | none => []
  let authorization :=
    match pending.authorization with
    | some value => unlessOwn "authorization" value
    | none => []
  sortLines (own.entries ++ cookies ++ authorization ++ unlessOwn "accept" "*/*" ++
    unlessOwn "host" pending.url.authority ++ length)

def received (pending : Pending) : Received where
  method := pending.method
  target := pending.url.target
  headers := pending.lines
  body := pending.body.getD ""

end Pending

namespace RawReply

def toReply (raw : RawReply) : Reply where
  status := raw.status
  headers := Header.collect raw.headers
  text := String.ofList (Text.decodeUtf8 raw.body)

def location? (raw : RawReply) (url : Url) : Option Url := do
  let line ← raw.headers.find? fun line => Text.lower line.1 == "location"
  Url.parse? (some url) (String.ofList (Text.decodeUtf8 line.2))

end RawReply

namespace Exchange

def bodyHeaders : List String :=
  ["content-type", "content-length", "content-encoding", "transfer-encoding"]

def withoutBodyHeaders (headers : Table String) : Table String where
  entries := headers.entries.filter fun entry => !bodyHeaders.contains entry.1
  sorted := headers.sorted.filter _

def asGet (pending : Pending) : Pending :=
  { pending with method := .get, body := none, headers := withoutBodyHeaders pending.headers }

/-- What a redirecting status makes of a request; nothing for other statuses. -/
def redirected? (status : UInt16) (pending : Pending) : Option Pending :=
  match status with
  | 301 | 302 => some (if pending.method = .post then asGet pending else pending)
  | 303 => some (asGet pending)
  | 307 | 308 => some pending
  | _ => none

/-- The request that a reply redirects to. It tells which URL it comes from. -/
def next? (raw : RawReply) (pending : Pending) : Option Pending := do
  let redirected ← redirected? raw.status pending
  let url ← raw.location? pending.url
  return { redirected with
    url
    headers := redirected.headers.insert "referer" pending.url.asReferer.write }

def redirectLimit : Nat := 10

/-- Sends a request to a server and follows up to `redirects` redirects. -/
def send (server : Server) (follow : Bool) (first : Url) :
    (redirects : Nat) → List RawReply → Pending → Except TransportFault Reply × List Received
  | redirects, replies, pending =>
      match replies with
      | [] => (.error (.unreachable pending.url.write), [])
      | raw :: replies =>
          if pending.url.authority ≠ server.authority then
            (.error (.unreachable pending.url.write), [])
          else
            match if follow then next? raw pending else none with
            | none => (.ok raw.toReply, [pending.received])
            | some next =>
                if !next.url.isHttp then
                  (.error (.unsupportedUrl next.url.write), [pending.received])
                else
                  match redirects with
                  | 0 => (.error (.tooManyRedirects first.write), [pending.received])
                  | redirects + 1 =>
                      let (result, received) := send server follow first redirects replies next
                      (result, pending.received :: received)
termination_by _ replies => replies.length

def authorizationOf (credentials : String × Option String) : String :=
  let text := credentials.1 ++ ":" ++ credentials.2.getD ""
  "Basic " ++ String.ofList (Text.base64 text.toUTF8.toList)

/-- The URL of a request, below a base, and the credentials that were part of it. -/
def urlOf (base : String) (request : Request) :
    Except TransportFault (Option (String × Option String) × Url) :=
  match (Url.parse? none (Url.joinBase base request.url)).map Url.takeCredentials with
  | none => .error .noUrl
  | some (credentials, url) =>
      if url.isHttp then .ok (credentials, url)
      else .error (.unsupportedUrl url.write)

def pendingOf (base : String) (call : Call) : Except Failure Pending := do
  let headers ← (Header.build call.request.headers).mapError .header
  let cookieLine ← (Header.checkedCookieLine call.request.cookies).mapError .header
  let (credentials, url) ← (urlOf base call.request).mapError .transport
  return {
    method := call.method, url, headers, cookieLine, body := call.body
    authorization := credentials.map authorizationOf }

def perform (server : Server) (base : String) (call : Call) :
    Except Failure Reply × List Received :=
  match pendingOf base call with
  | .error e => (.error e, [])
  | .ok pending =>
      let (result, received) :=
        send server call.request.allowRedirects pending.url redirectLimit server.replies pending
      (result.mapError .transport, received)

end Exchange

end HttpScenario
