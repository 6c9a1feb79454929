import HttpScenario.Text.Digit

namespace HttpScenario.Toml

/-! The small parts of TOML texts: blanks, comments, strings and keys. A reader
gives what it read and what is left, or nothing. -/

def isBlank (c : Char) : Bool := c == ' ' || c == '\t'

def skipBlanks (cs : List Char) : List Char := cs.dropWhile isBlank

def isPlain (c : Char) : Bool := c == '\t' || (0x20 ≤ c.toNat && c.toNat != 0x7F)

def newline? : List Char → Option (List Char)
  | '\n' :: rest => some rest
  | '\r' :: '\n' :: rest => some rest
  | _ => none

def expect (expected : Char) : List Char → Option (List Char)
  | c :: rest => if c = expected then some rest else none
  | [] => none

def skipComment (cs : List Char) : List Char :=
  match cs with
  | '#' :: rest => rest.dropWhile isPlain
  | cs => cs

def endLine (cs : List Char) : Option (List Char) :=
  match skipComment (skipBlanks cs) with
  | [] => some []
  | rest => newline? rest

def skipGaps : (limit : Nat) → List Char → List Char
  | 0, cs => cs
  | limit + 1, cs =>
      match skipBlanks cs with
      | '#' :: rest => skipGaps limit (rest.dropWhile isPlain)
      | rest =>
          match newline? rest with
          | some rest => skipGaps limit rest
          | none => rest

def readFixed (radix count : Nat) (cs : List Char) : Option (Nat × List Char) :=
  let digits := cs.take count
  if digits.length = count then
    (Text.digitsValue? radix digits).map fun n => (n, cs.drop count)
  else none

def readEscape (cs : List Char) : Option (Char × List Char) :=
  let codePoint (count : Nat) (cs : List Char) : Option (Char × List Char) := do
    let (n, rest) ← readFixed 16 count cs
    if n.isValidChar then return (Char.ofNat n, rest) else none
  match cs with
  | 'b' :: rest => some ('\x08', rest)
  | 'f' :: rest => some ('\x0c', rest)
  | 'n' :: rest => some ('\n', rest)
  | 'r' :: rest => some ('\r', rest)
  | 't' :: rest => some ('\t', rest)
  | '"' :: rest => some ('"', rest)
  | '\\' :: rest => some ('\\', rest)
  | 'u' :: rest => codePoint 4 rest
  | 'U' :: rest => codePoint 8 rest
  | _ => none

/-- Reads a string on one line from behind its quote; `escapes` tells whether a
backslash begins an escape. -/
def readLine (quote : Char) (escapes : Bool) :
    (limit : Nat) → (read : List Char) → List Char → Option (String × List Char)
  | 0, _, _ => none
  | _, _, [] => none
  | limit + 1, read, c :: rest =>
      if c = quote then some (String.ofList read.reverse, rest)
      else if escapes && c == '\\' then do
        let (d, rest) ← readEscape rest
        readLine quote escapes limit (d :: read) rest
      else if isPlain c then readLine quote escapes limit (c :: read) rest
      else none

def skipBlankLines : List Char → List Char
  | '\r' :: '\n' :: rest => skipBlankLines rest
  | c :: rest => if isBlank c || c == '\n' then skipBlankLines rest else c :: rest
  | [] => []

/-- Reads a string on several lines. One or two quotes are part of it, also
before the three that end it. A backslash at the end of a line takes all blanks
and line breaks after it away. -/
def readLines (quote : Char) (escapes : Bool) :
    (limit : Nat) → (read : List Char) → List Char → Option (String × List Char)
  | 0, _, _ => none
  | _, _, [] => none
  | limit + 1, read, c :: rest =>
      if c = quote then
        let count := 1 + (rest.takeWhile (· == quote)).length
        if count < 3 then
          readLines quote escapes limit (List.replicate count quote ++ read)
            (rest.drop (count - 1))
        else
          let extra := min (count - 3) 2
          some (String.ofList (read.reverse ++ List.replicate extra quote),
            rest.drop (extra + 2))
      else if escapes && c == '\\' then
        match newline? (skipBlanks rest) with
        | some rest => readLines quote escapes limit read (skipBlankLines rest)
        | none => do
            let (d, rest) ← readEscape rest
            readLines quote escapes limit (d :: read) rest
      else
        match newline? (c :: rest) with
        | some rest => readLines quote escapes limit ('\n' :: read) rest
        | none => if isPlain c then readLines quote escapes limit (c :: read) rest else none

def readString (limit : Nat) (cs : List Char) : Option (String × List Char) :=
  match cs with
  | '"' :: '"' :: '"' :: rest => readLines '"' true limit [] ((newline? rest).getD rest)
  | '\'' :: '\'' :: '\'' :: rest =>
      readLines '\'' false limit [] ((newline? rest).getD rest)
  | '"' :: rest => readLine '"' true limit [] rest
  | '\'' :: rest => readLine '\'' false limit [] rest
  | _ => none

def isBare (c : Char) : Bool := c.isAlphanum || c == '_' || c == '-'

def readKeyPart (limit : Nat) (cs : List Char) : Option (String × List Char) :=
  match cs with
  | '"' :: rest => readLine '"' true limit [] rest
  | '\'' :: rest => readLine '\'' false limit [] rest
  | cs =>
      let bare := cs.takeWhile isBare
      if bare.isEmpty then none else some (String.ofList bare, cs.dropWhile isBare)

def keyLimit : Nat := 79

def readKeyParts (limit : Nat) : (parts : Nat) → List Char → Option (List String × List Char)
  | 0, _ => none
  | parts + 1, cs => do
      let (part, rest) ← readKeyPart limit (skipBlanks cs)
      match skipBlanks rest with
      | '.' :: rest =>
          let (more, rest) ← readKeyParts limit parts rest
          return (part :: more, rest)
      | rest => return ([part], rest)

def readKey (limit : Nat) (cs : List Char) : Option ((List String × String) × List Char) := do
  let (parts, rest) ← readKeyParts limit keyLimit cs
  return ((parts.dropLast, ← parts.getLast?), rest)

end HttpScenario.Toml
