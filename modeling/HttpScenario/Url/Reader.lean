import HttpScenario.Url.Basic
import HttpScenario.Url.Path

namespace HttpScenario.Url

/-- The socket number that a scheme has when none is written. These schemes are
special: a host follows, and a backslash is a slash. -/
def defaultSocket? (scheme : String) : Option Nat :=
  if scheme = "http" ∨ scheme = "ws" then some 80
  else if scheme = "https" ∨ scheme = "wss" then some 443
  else if scheme = "ftp" then some 21
  else none

def isFile (scheme : String) : Bool := scheme == "file"

def isSpecial (scheme : String) : Bool := isFile scheme || (defaultSocket? scheme).isSome

def isSchemeChar (c : Char) : Bool :=
  c.isAlphanum || c == '+' || c == '-' || c == '.'

def splitScheme? (cs : List Char) : Option (String × List Char) :=
  match cs with
  | [] => none
  | c :: _ =>
      if !c.isAlpha then none
      else
        match cs.dropWhile isSchemeChar with
        | ':' :: rest => some (String.ofList ((cs.takeWhile isSchemeChar).map Char.toLower), rest)
        | _ => none

structure Tail where
  query : Option String
  fragment : Option String

def Tail.isEmpty (tail : Tail) : Bool := tail.query.isNone && tail.fragment.isNone

def splitTail (special : Bool) (cs : List Char) : List Char × Tail :=
  let body := cs.takeWhile (· != '#')
  let fragment :=
    match cs.dropWhile (· != '#') with
    | [] => none
    | _ :: rest => some (String.ofList (escape escapedInFragment rest))
  let query :=
    match body.dropWhile (· != '?') with
    | [] => none
    | _ :: rest => some (String.ofList (escape (escapedInQuery special) rest))
  (body.takeWhile (· != '?'), ⟨query, fragment⟩)

/-- The credentials before a host, and the rest. They end with the last at sign. -/
def splitCredentials (cs : List Char) : Option (List Char) × List Char :=
  let server := (cs.splitOn '@').getLastD []
  if server.length = cs.length then (none, cs)
  else (some (cs.take (cs.length - server.length - 1)), server)

/-- Reads credentials. A name is the part before the first colon; when there is
nothing else, there are none. -/
def readCredentials? (cs : List Char) : Option Credentials :=
  let name := cs.takeWhile (· != ':')
  let password := cs.drop (name.length + 1)
  let text (cs : List Char) : String := String.ofList (escape escapedInCredentials cs)
  if name.isEmpty && password.isEmpty then none
  else some ⟨text name, if password.isEmpty then none else some (text password)⟩

def takeHost (inside : Bool) : List Char → List Char
  | [] => []
  | c :: rest =>
      if c == ':' && !inside then []
      else c :: takeHost (if c == '[' then true else if c == ']' then false else inside) rest

/-- Reads the socket number behind a colon, unless it is the one of the scheme, and
what is left, which can only be a path. -/
def readSocket? (scheme : String) (cs : List Char) : Option (Option Nat × List Char) := do
  let digits := cs.takeWhile Char.isDigit
  let rest := cs.drop digits.length
  let socket ← Text.digitsValue? 10 digits
  if 65535 < socket ∨ (rest.head?.any (· != '\\')) then none
  else if digits.isEmpty ∨ defaultSocket? scheme = some socket then return (none, rest)
  else return (some socket, rest)

def readWithHost? (scheme : String) (cs : List Char) (tail : Tail) : Option Url := do
  let special := isSpecial scheme
  let front := cs.takeWhile (!isSlash special ·)
  let path := cs.drop front.length
  let (before, server) := splitCredentials front
  let credentials := before.bind readCredentials?
  let name := takeHost false server
  let host ← if special then readHost? name else readOpaqueHost? name
  let (socket, more) ←
    match server.drop name.length with
    | [] => some (none, [])
    | _ :: rest => if host.isEmpty then none else readSocket? scheme rest
  if host.isEmpty && (credentials.isSome || (before == some [] && !(path.isEmpty && tail.isEmpty)))
  then none
  else
    return {
      scheme, credentials, host, socket
      path := readPath special (more ++ path)
      query := tail.query
      fragment := tail.fragment }

/-- The host of a file: the own one is not written. -/
def readFileHost? (cs : List Char) : Option String :=
  if cs.isEmpty then some ""
  else (readHost? cs).map fun host => if host = "localhost" then "" else host

def afterSlash? (cs : List Char) : Option (List Char) :=
  match cs.dropWhile isBreak with
  | [] => none
  | c :: rest => if isSlash true c then some rest else none

/-- The URL of a file, from behind the colon and with its breaks. A drive has no host,
neither in the place of one nor behind one. -/
def readFile? (cs : List Char) (tail : Tail) : Option Url :=
  let file (host : String) (path : List Char) : Url :=
    let path := FilePath.read path
    { scheme := "file"
      host := some (if path.hasDrive then "" else host)
      path := path.write
      query := tail.query
      fragment := tail.fragment }
  match afterSlash? cs with
  | none => some (file "" cs)
  | some rest =>
      match afterSlash? rest with
      | none => some (file "" rest)
      | some rest =>
          let front := rest.takeWhile (!isSlash true ·)
          let name := withoutBreaks front
          if isDrive name then some (file "" rest)
          else
            let path := rest.drop front.length
            (readFileHost? name).map fun host =>
              file host (if host.isEmpty then path else withoutSlash true path)

def readRelative? (base : Url) (cs : List Char) (tail : Tail) : Option Url :=
  let special := isSpecial base.scheme
  let moved (path : String) : Url :=
    { base with path, query := tail.query, fragment := tail.fragment }
  match cs with
  | [] =>
      some { base with
        query := if tail.query.isSome then tail.query else base.query
        fragment := tail.fragment }
  | '/' :: '/' :: rest => readWithHost? base.scheme rest tail
  | c :: rest =>
      if isSlash special c then
        if rest.head?.any (isSlash special) then
          readWithHost? base.scheme (cs.dropWhile (isSlash special)) tail
        else some (moved (readPath special cs))
      else some (moved (resolvePath special base.path cs))

def readAbsolute? (base : Option Url) (scheme : String) (cs : List Char) (tail : Tail) :
    Option Url :=
  if isSpecial scheme then
    let afterSlashes := cs.dropWhile (isSlash true)
    match base.filter fun url => url.scheme == scheme && cs.length < afterSlashes.length + 2 with
    | some url => readRelative? url cs tail
    | none => readWithHost? scheme afterSlashes tail
  else
    match cs with
    | '/' :: '/' :: rest => readWithHost? scheme rest tail
    | cs =>
        let path :=
          if cs.head? = some '/' then readPath false cs
          else String.ofList (escape isControl cs)
        some { scheme, path, query := tail.query, fragment := tail.fragment }

def trim (cs : List Char) : List Char :=
  let outer (c : Char) : Bool := c.toNat ≤ 0x20
  ((cs.dropWhile outer).reverse.dropWhile outer).reverse

def behindScheme (cs : List Char) : List Char :=
  ((cs.dropWhile (· != ':')).drop 1).takeWhile fun c => c != '?' && c != '#'

/-- The URL that a text is, taken from another one if there is one. Breaks in the text
do not count, but for the one behind the drive of a file. -/
def parse? (base : Option Url) (text : String) : Option Url :=
  let written := trim text.toList
  let cs := withoutBreaks written
  match splitScheme? cs with
  | some (scheme, rest) =>
      let (cs, tail) := splitTail (isSpecial scheme) rest
      if isFile scheme then readFile? (behindScheme written) tail
      else readAbsolute? base scheme cs tail
  | none => do
      let base ← base
      let (cs, tail) := splitTail (isSpecial base.scheme) cs
      readRelative? base cs tail

end HttpScenario.Url
