import HttpScenario.Text.Digit
import HttpScenario.Text.Utf8

namespace HttpScenario.Url

def isControl (c : Char) : Bool := c.toNat < 0x20 || 0x7E < c.toNat

def escapedInFragment (c : Char) : Bool := isControl c || " \"<>`".toList.contains c

def escapedInPath (c : Char) : Bool :=
  escapedInFragment c || c == '#' || c == '?' || c == '{' || c == '}'

def escapedInCredentials (c : Char) : Bool :=
  escapedInPath c || "/:;=@[\\]^|".toList.contains c

def escapedInQuery (special : Bool) (c : Char) : Bool :=
  isControl c || " \"#<>".toList.contains c || (special && c == '\'')

def hexUpper (n : Nat) : Char := (Nat.digitChar n).toUpper

def escapeByte (b : UInt8) : List Char :=
  ['%', hexUpper (b.toNat / 16), hexUpper (b.toNat % 16)]

def escape (escaped : Char → Bool) (cs : List Char) : List Char :=
  cs.flatMap fun c => if escaped c then (Text.encodeUtf8 [c]).flatMap escapeByte else [c]

/-- The bytes that a text with escapes stands for. A percent sign without two digits
stands for itself. -/
def unescape : List Char → List UInt8
  | '%' :: a :: b :: rest =>
      match Text.hexDigit? a, Text.hexDigit? b with
      | some x, some y => UInt8.ofNat (x * 16 + y) :: unescape rest
      | _, _ => 37 :: unescape (a :: b :: rest)
  | c :: rest => Text.encodeUtf8 [c] ++ unescape rest
  | [] => []

def unescapeText? (cs : List Char) : Option String :=
  String.fromUTF8? ⟨(unescape cs).toArray⟩

end HttpScenario.Url
