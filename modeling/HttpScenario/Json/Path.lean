import HttpScenario.Text.Digit

namespace HttpScenario

/-! Dotted paths into a document, such as `items.[0].*id`. A wildcard stands
only in the last token. -/

/-- A token before the last one: the name of a member or the place of an element. -/
inductive Step where
  | key (name : String)
  | index (i : Nat)
deriving DecidableEq

/-- The last token: one member, one element, or that member or element of every
element of the array reached. -/
inductive Target where
  | key (name : String)
  | index (i : Nat)
  | eachKey (name : String)
  | eachIndex (i : Nat)
deriving DecidableEq

/-- A path, with the text it was read from. -/
structure Path where
  text : String
  parents : List Step
  target : Target
deriving DecidableEq

inductive Path.Fault where
  | empty
  | earlyWildcard
  | bareWildcard
  | malformedIndex (token : String)
  | indexNotNatural (token : String)
deriving DecidableEq

def Path.Fault.text : Path.Fault → String
  | .empty => "path cannot be empty"
  | .earlyWildcard => "`*` must only be used in the final token of a path"
  | .bareWildcard => "wildcard needs a key or index"
  | .malformedIndex token => s!"malformed index token `{token}`"
  | .indexNotNatural token => s!"index must be a non-negative integer: `{token}`"

inductive PathError where
  | invalid (path : String) (fault : Path.Fault)
  | unmatched (path : String)
deriving DecidableEq

def PathError.message : PathError → String
  | .invalid path fault => s!"invalid path `{path}`: {fault.text}"
  | .unmatched path => s!"path `{path}` did not match anything"

namespace Path

def indexLimit : Nat := Nat.pow 2 64

/-- Digits, with a plus sign before them or not, of a number below the limit. -/
def natural? (cs : List Char) : Option Nat :=
  let digits :=
    match cs with
    | '+' :: rest => rest
    | cs => cs
  if digits.isEmpty then none
  else (Text.digitsValue? 10 digits).filter (· < indexLimit)

def bracketed? (token : List Char) : Option (List Char) :=
  match token with
  | '[' :: rest => if rest.getLast? = some ']' then some rest.dropLast else none
  | _ => none

def readIndex (token : List Char) : Except Fault Nat :=
  match bracketed? token with
  | none => .error (.malformedIndex (String.ofList token))
  | some inner =>
      match natural? inner with
      | none => .error (.indexNotNatural (String.ofList token))
      | some i => .ok i

def readStep (token : List Char) : Except Fault Step :=
  if token.head? = some '[' then (readIndex token).map .index
  else .ok (.key (String.ofList token))

def readTarget (token : List Char) : Except Fault Target :=
  match token with
  | ['*'] => .error .bareWildcard
  | '*' :: rest =>
      if rest.head? = some '[' then (readIndex rest).map .eachIndex
      else .ok (.eachKey (String.ofList rest))
  | token =>
      (readStep token).map fun
        | .key name => .key name
        | .index i => .index i

def readParents : List (List Char) → Except Fault (List Step)
  | [] => .ok []
  | token :: tokens =>
      if token.head? = some '*' then .error .earlyWildcard
      else do
        let step ← readStep token
        let steps ← readParents tokens
        return step :: steps

def tokens (cs : List Char) : List (List Char) := cs.splitOn '.'

def read (text : String) : Except Fault Path :=
  if text.isEmpty then .error .empty
  else do
    let tokens := tokens text.toList
    let parents ← readParents tokens.dropLast
    let target ← readTarget (tokens.getLastD [])
    return { text, parents, target }

def parse (text : String) : Except PathError Path :=
  (read text).mapError (.invalid text)

def writeIndex (i : Nat) : List Char := '[' :: Nat.toDigits 10 i ++ [']']

def writeStep : Step → List Char
  | .key name => name.toList
  | .index i => writeIndex i

def writeTarget : Target → List Char
  | .key name => name.toList
  | .index i => writeIndex i
  | .eachKey name => '*' :: name.toList
  | .eachIndex i => '*' :: writeIndex i

def write (parents : List Step) (target : Target) : String :=
  String.ofList (['.'].intercalate (parents.map writeStep ++ [writeTarget target]))

end Path

end HttpScenario
