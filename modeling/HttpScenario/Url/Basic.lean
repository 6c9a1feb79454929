import HttpScenario.Url.Host

namespace HttpScenario

structure Credentials where
  name : String
  password : Option String
deriving DecidableEq

namespace Credentials

def write (credentials : Credentials) : String :=
  credentials.name ++ (credentials.password.map (":" ++ ·)).getD ""

/-- The name and the password that are meant, if the name can be read. A password that
cannot be read counts as none. -/
def read? (credentials : Credentials) : Option (String × Option String) := do
  let name ← Url.unescapeText? credentials.name.toList
  return (name, credentials.password.bind fun password => Url.unescapeText? password.toList)

end Credentials

structure Url where
  scheme : String
  credentials : Option Credentials := none
  host : Option String := none
  socket : Option Nat := none
  path : String
  query : Option String := none
  fragment : Option String := none
deriving DecidableEq

namespace Url

def authority (url : Url) : String :=
  url.host.getD "" ++ (url.socket.map fun n => ":" ++ toString n).getD ""

def target (url : Url) : String :=
  url.path ++ (url.query.map ("?" ++ ·)).getD ""

/-- What stands between the scheme and the path. Without a host, a path that begins
with two slashes must not be taken for one. -/
def front (url : Url) : String :=
  if url.host.isSome then
    "//" ++ (url.credentials.map (·.write ++ "@")).getD "" ++ url.authority
  else if "//".toList.isPrefixOf url.path.toList then "/."
  else ""

def write (url : Url) : String :=
  url.scheme ++ ":" ++ url.front ++ url.target ++ (url.fragment.map ("#" ++ ·)).getD ""

def asReferer (url : Url) : Url := { url with credentials := none, fragment := none }

def takeCredentials (url : Url) : Option (String × Option String) × Url :=
  match url.credentials.bind Credentials.read? with
  | none => (none, url)
  | some (name, password) =>
      if name.isEmpty && password.isNone then (none, url)
      else (some (name, password), { url with credentials := none })

def sendLimit : Nat := 65534

def isHttp (url : Url) : Bool :=
  (url.scheme == "http" || url.scheme == "https") && url.host.any isSendableHost &&
    url.write.utf8ByteSize ≤ sendLimit

/-- The URL of a request: as it is when it is absolute or there is no base, and
below the base otherwise, with one slash between the two. -/
def joinBase (base url : String) : String :=
  if "http://".toList.isPrefixOf url.toList || "https://".toList.isPrefixOf url.toList ||
      base.isEmpty then url
  else
    let before := (base.toList.reverse.dropWhile (· == '/')).reverse
    String.ofList (before ++ '/' :: url.toList.dropWhile (· == '/'))

end Url

end HttpScenario
