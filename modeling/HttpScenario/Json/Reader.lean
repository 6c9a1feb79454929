import HttpScenario.Json.NumberReader
import HttpScenario.Json.StringReader

namespace HttpScenario.Json

/-! Documents. The reader of elements is a parameter of the reader of arrays and
of the reader of objects, so that the depth of nesting is what recursion is on.
Inside a container every round takes at least one character; `limit` bounds the
rounds and is the length of the whole text. -/

def isBlank (c : Char) : Bool :=
  c == ' ' || c == '\t' || c == '\n' || c == '\r'

def skipBlanks (cs : List Char) : List Char := cs.dropWhile isBlank

abbrev Read := Except Stop (Json × List Char)

def readWord (value : Json) : (word : List Char) → List Char → Read
  | [], cs => .ok (value, cs)
  | _ :: _, [] => .error (.before .unfinishedValue [])
  | expected :: word, c :: rest =>
      if c = expected then readWord value word rest
      else .error ⟨.wordExpected, c :: rest, 1⟩

def readScalar (limit : Nat) (cs : List Char) : Read :=
  match cs with
  | [] => .error (.inside .unfinishedValue [])
  | 'n' :: rest => readWord .null ['u', 'l', 'l'] rest
  | 't' :: rest => readWord (.bool true) ['r', 'u', 'e'] rest
  | 'f' :: rest => readWord (.bool false) ['a', 'l', 's', 'e'] rest
  | '"' :: rest =>
      match readCharacters limit [] rest with
      | .ok (s, rest) => .ok (.str s, rest)
      | .error stop => .error stop
  | '-' :: rest =>
      match readNumber true rest with
      | .ok (n, rest) => .ok (.num n, rest)
      | .error stop => .error stop
  | c :: rest =>
      if isDigit c then
        match readNumber false (c :: rest) with
        | .ok (n, rest) => .ok (.num n, rest)
        | .error stop => .error stop
      else .error (.inside .valueExpected (c :: rest))

/-- Reads the elements that follow the first one; `read` holds those read
before, the last one first. -/
def readItems (element : List Char → Read) :
    (limit : Nat) → (read : List Json) → List Char → Read
  | 0, _, cs => .error (.inside .unfinishedArray cs)
  | limit + 1, read, cs =>
      match skipBlanks cs with
      | [] => .error (.inside .unfinishedArray [])
      | ']' :: rest => .ok (.arr read.reverse, rest)
      | ',' :: rest =>
          match skipBlanks rest with
          | [] => .error (.inside .unfinishedValue [])
          | ']' :: rest => .error (.inside .trailingComma (']' :: rest))
          | cs =>
              match element cs with
              | .ok (item, rest) => readItems element limit (item :: read) rest
              | .error stop => .error stop
      | cs => .error (.inside .arrayEndExpected cs)

def readArray (element : List Char → Read) (limit : Nat) (cs : List Char) : Read :=
  match skipBlanks cs with
  | [] => .error (.inside .unfinishedArray [])
  | ']' :: rest => .ok (.arr [], rest)
  | cs =>
      match element cs with
      | .ok (item, rest) => readItems element limit [item] rest
      | .error stop => .error stop

def readMember (element : List Char → Read) (limit : Nat) (cs : List Char) :
    Except Stop ((String × Json) × List Char) :=
  match readCharacters limit [] cs with
  | .error stop => .error stop
  | .ok (name, rest) =>
      match skipBlanks rest with
      | [] => .error (.inside .unfinishedObject [])
      | ':' :: rest =>
          match element rest with
          | .ok (value, rest) => .ok ((name, value), rest)
          | .error stop => .error stop
      | cs => .error (.inside .colonExpected cs)

/-- Reads the members that follow the first one. A repeated name keeps its place
and takes the later value. -/
def readMembers (element : List Char → Read) (bound : Nat) :
    (limit : Nat) → (read : List (String × Json)) → List Char → Read
  | 0, _, cs => .error (.inside .unfinishedObject cs)
  | limit + 1, read, cs =>
      match skipBlanks cs with
      | [] => .error (.inside .unfinishedObject [])
      | '}' :: rest => .ok (.obj (Members.ofPairs read.reverse), rest)
      | ',' :: rest =>
          match skipBlanks rest with
          | [] => .error (.inside .unfinishedValue [])
          | '"' :: rest =>
              match readMember element bound rest with
              | .ok (member, rest) => readMembers element bound limit (member :: read) rest
              | .error stop => .error stop
          | '}' :: rest => .error (.inside .trailingComma ('}' :: rest))
          | cs => .error (.inside .nameExpected cs)
      | cs => .error (.inside .objectEndExpected cs)

def readObject (element : List Char → Read) (limit : Nat) (cs : List Char) : Read :=
  match skipBlanks cs with
  | [] => .error (.inside .unfinishedObject [])
  | '}' :: rest => .ok (.obj [], rest)
  | '"' :: rest =>
      match readMember element limit rest with
      | .ok (member, rest) => readMembers element limit limit [member] rest
      | .error stop => .error stop
  | cs => .error (.inside .nameExpected cs)

/-- The number of containers that may be nested in one another. -/
def depthLimit : Nat := 127

/-- Reads a value with at most `depth` containers in one another. -/
def readValue (limit : Nat) : (depth : Nat) → List Char → Read
  | 0, cs =>
      match skipBlanks cs with
      | '[' :: rest => .error (.inside .tooDeep ('[' :: rest))
      | '{' :: rest => .error (.inside .tooDeep ('{' :: rest))
      | cs => readScalar limit cs
  | depth + 1, cs =>
      match skipBlanks cs with
      | '[' :: rest => readArray (readValue limit depth) limit rest
      | '{' :: rest => readObject (readValue limit depth) limit rest
      | cs => readScalar limit cs

def readDocument (cs : List Char) : Except Stop Json :=
  match readValue (cs.length + 1) depthLimit cs with
  | .error stop => .error stop
  | .ok (value, rest) =>
      match skipBlanks rest with
      | [] => .ok value
      | rest => .error (.inside .trailingCharacters rest)

def parse (text : String) : Except ParseError Json :=
  (readDocument text.toList).mapError (Stop.toParseError text.toList)

end HttpScenario.Json
