import HttpScenario.Json.ParseError
import HttpScenario.Text.Digit

namespace HttpScenario.Json

/-- Reads the four digits of an escape. Four bytes have to be left, of whatever
characters. -/
def readHexWord (cs : List Char) : Except Stop (Nat × List Char) :=
  match cs with
  | a :: b :: c :: d :: rest =>
      match Text.digitsValue? 16 [a, b, c, d] with
      | some n => .ok (n, rest)
      | none => .error ⟨.badEscape, cs, 4⟩
  | cs =>
      if byteLength cs < 4 then .error (.before .unfinishedString [])
      else .error ⟨.badEscape, cs, 4⟩

def isLeading (n : Nat) : Bool := 0xD800 ≤ n && n ≤ 0xDBFF

def isTrailing (n : Nat) : Bool := 0xDC00 ≤ n && n ≤ 0xDFFF

def expectPair (expected : Char) (cs : List Char) : Except Stop (List Char) :=
  match cs with
  | [] => .error (.before .unfinishedString [])
  | c :: rest =>
      if c = expected then .ok rest else .error ⟨.unfinishedEscapePair, c :: rest, 1⟩

/-- Reads the digits of a `\u` escape, and of a second one when the first is the
leading half of a surrogate pair. -/
def readCodePoint (cs : List Char) : Except Stop (Char × List Char) := do
  let (n, rest) ← readHexWord cs
  if isTrailing n then
    .error (.before .loneSurrogate rest)
  else if isLeading n then
    let rest ← expectPair '\\' rest
    let rest ← expectPair 'u' rest
    let (m, rest) ← readHexWord rest
    if isTrailing m then
      .ok (Char.ofNat ((n - 0xD800) * 0x400 + (m - 0xDC00) + 0x10000), rest)
    else .error (.before .loneSurrogate rest)
  else .ok (Char.ofNat n, rest)

def readEscape (cs : List Char) : Except Stop (Char × List Char) :=
  match cs with
  | [] => .error (.before .unfinishedString [])
  | '"' :: rest => .ok ('"', rest)
  | '\\' :: rest => .ok ('\\', rest)
  | '/' :: rest => .ok ('/', rest)
  | 'b' :: rest => .ok ('\x08', rest)
  | 'f' :: rest => .ok ('\x0c', rest)
  | 'n' :: rest => .ok ('\n', rest)
  | 'r' :: rest => .ok ('\r', rest)
  | 't' :: rest => .ok ('\t', rest)
  | 'u' :: rest => readCodePoint rest
  | cs => .error ⟨.badEscape, cs, 1⟩

/-- Reads characters up to the closing quote; `read` holds those read before, the
last one first. Every step takes at least one character, so that `limit` steps
are enough for a text of `limit` characters. -/
def readCharacters : (limit : Nat) → (read : List Char) → List Char →
    Except Stop (String × List Char)
  | 0, _, _ => .error (.before .unfinishedString [])
  | _, _, [] => .error (.before .unfinishedString [])
  | limit + 1, read, c :: rest =>
      if c = '"' then .ok (String.ofList read.reverse, rest)
      else if c = '\\' then
        match readEscape rest with
        | .ok (d, rest) => readCharacters limit (d :: read) rest
        | .error stop => .error stop
      else if c.toNat < 0x20 then .error ⟨.controlCharacter, c :: rest, 1⟩
      else readCharacters limit (c :: read) rest

end HttpScenario.Json
