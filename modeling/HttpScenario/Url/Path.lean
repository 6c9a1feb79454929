import HttpScenario.Url.Escape

namespace HttpScenario.Url

def isSlash (special : Bool) (c : Char) : Bool := c == '/' || (special && c == '\\')

/-- How many directories a part of a path leads up: none for `.`, one for `..`.
Other parts are kept. -/
def dots? (part : List Char) : Option Nat :=
  let part := part.map Char.toLower
  if part = ['.'] ∨ part = "%2e".toList then some 0
  else if part = ['.', '.'] ∨ part = ".%2e".toList ∨ part = "%2e.".toList ∨
      part = "%2e%2e".toList then some 1
  else none

def isDrive (part : List Char) : Bool :=
  match part with
  | [letter, mark] => letter.isAlpha && (mark == ':' || mark == '|')
  | _ => false

/-- Whether `..` does not lead up from a part: a drive, also before a backslash that
is not a slash. -/
def isFixed (part : List Char) : Bool :=
  isDrive (part.take 2) && (part[2]?.all (· == '\\'))

/-- Leads up from the last one of the parts, of which that is the first. -/
def leadUp : List (List Char) → List (List Char)
  | [] => []
  | last :: before => if isFixed last then last :: before else before

/-- Adds a part to a path, whose parts are given with the last one first. A path that
ends in dots ends in an empty part. -/
def enter (done : List (List Char)) (part : List Char) (atEnd : Bool) : List (List Char) :=
  match dots? part with
  | none => escape escapedInPath part :: done
  | some up =>
      let done := if up = 0 then done else leadUp done
      if atEnd then [] :: done else done

def walk (done : List (List Char)) : List (List Char) → List (List Char)
  | [] => done.reverse
  | part :: parts => walk (enter done part parts.isEmpty) parts

def splitPath (special : Bool) (cs : List Char) : List (List Char) :=
  (cs.map fun c => if isSlash special c then '/' else c).splitOn '/'

def joinParts (parts : List (List Char)) : String :=
  String.ofList (parts.flatMap fun part => '/' :: part)

def withoutSlash (special : Bool) (cs : List Char) : List Char :=
  match cs with
  | [] => []
  | c :: rest => if isSlash special c then rest else cs

def readPath (special : Bool) (cs : List Char) : String :=
  if cs.isEmpty && !special then ""
  else joinParts (walk [] (splitPath special (withoutSlash special cs)))

/-! The path of a file may begin with a drive, which is written with a colon. Its text
is read with its breaks, since a break behind a drive parts it from what follows. -/

def isBreak (c : Char) : Bool := c == '\t' || c == '\n' || c == '\r'

def withoutBreaks (cs : List Char) : List Char := cs.filter (!isBreak ·)

def splitDrive? (part : List Char) : Option (List Char × List Char) :=
  let front := part.takeWhile (· != ':')
  match part.drop front.length with
  | ':' :: c :: rest =>
      let drive := withoutBreaks front ++ [':']
      let rest := withoutBreaks rest
      if isBreak c && isDrive drive && !rest.isEmpty then some (drive, rest) else none
  | _ => none

/-- The path of a file: its parts, while they are read the last one first, and whether
it was begun by a part that is a drive. -/
structure FilePath where
  parts : List (List Char)
  hasDrive : Bool := false
deriving DecidableEq

namespace FilePath

/-- Adds a part. What a break parts from a drive is no dots. -/
def enter (path : FilePath) (part : List Char) (atEnd : Bool) : FilePath :=
  let name := withoutBreaks part
  let further : FilePath := { path with parts := Url.enter path.parts name atEnd }
  if !path.parts.isEmpty then further
  else
    match splitDrive? part with
    | some (drive, rest) => { path with parts := [escape escapedInPath rest, drive] }
    | none =>
        if isDrive name then { parts := [name.take 1 ++ [':']], hasDrive := true } else further

def walk (path : FilePath) : List (List Char) → FilePath
  | [] => { path with parts := path.parts.reverse }
  | part :: parts => walk (path.enter part parts.isEmpty) parts

def read (cs : List Char) : FilePath := walk { parts := [] } (splitPath true cs)

def write (path : FilePath) : String :=
  match path.parts.dropWhile List.isEmpty with
  | [] => "/"
  | parts => joinParts parts

end FilePath

def resolvePath (special : Bool) (base : String) (cs : List Char) : String :=
  let before := ((base.toList.drop 1).splitOn '/').dropLast
  joinParts (walk before.reverse (splitPath special cs))

end HttpScenario.Url
