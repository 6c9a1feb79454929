import HttpScenario.Binary64.Shortest
import HttpScenario.Json.Value

namespace HttpScenario

def Number.write : Number → List Char
  | .int (.ofNat n) => Nat.toDigits 10 n
  | .int (.negSucc n) => '-' :: Nat.toDigits 10 (n + 1)
  | .float x => x.write

namespace Json

def escape (c : Char) : List Char :=
  match c with
  | '"' => ['\\', '"']
  | '\\' => ['\\', '\\']
  | '\x08' => ['\\', 'b']
  | '\x0c' => ['\\', 'f']
  | '\n' => ['\\', 'n']
  | '\r' => ['\\', 'r']
  | '\t' => ['\\', 't']
  | c =>
      if c.toNat < 0x20 then
        ['\\', 'u', '0', '0', Nat.digitChar (c.toNat / 16), Nat.digitChar (c.toNat % 16)]
      else [c]

def writeString (s : String) : List Char :=
  '"' :: s.toList.flatMap escape ++ ['"']

def writeScalar : Json → List Char
  | .null => ['n', 'u', 'l', 'l']
  | .bool true => ['t', 'r', 'u', 'e']
  | .bool false => ['f', 'a', 'l', 's', 'e']
  | .num n => n.write
  | .str s => writeString s
  | .arr _ => []
  | .obj _ => []

mutual

def write : Json → List Char
  | .arr [] => ['[', ']']
  | .arr (item :: items) => '[' :: item.write ++ writeItems items
  | .obj [] => ['{', '}']
  | .obj ((name, value) :: rest) =>
      '{' :: writeString name ++ ':' :: value.write ++ writeMembers rest
  | v => v.writeScalar

def writeItems : List Json → List Char
  | [] => [']']
  | item :: items => ',' :: item.write ++ writeItems items

def writeMembers : List (String × Json) → List Char
  | [] => ['}']
  | (name, value) :: rest =>
      ',' :: writeString name ++ ':' :: value.write ++ writeMembers rest

end

/-- The line break before something that stands `level` steps in. -/
def newline (level : Nat) : List Char :=
  '\n' :: List.replicate (2 * level) ' '

/-! The pretty text puts every element and member on a line of its own, two
blanks further in than the brackets around it. -/

mutual

def writePretty (level : Nat) : Json → List Char
  | .arr [] => ['[', ']']
  | .arr (item :: items) =>
      '[' :: newline (level + 1) ++ item.writePretty (level + 1) ++
        writePrettyItems level items
  | .obj [] => ['{', '}']
  | .obj ((name, value) :: rest) =>
      '{' :: newline (level + 1) ++ writeString name ++ ':' :: ' ' ::
        value.writePretty (level + 1) ++ writePrettyMembers level rest
  | v => v.writeScalar

def writePrettyItems (level : Nat) : List Json → List Char
  | [] => newline level ++ [']']
  | item :: items =>
      ',' :: newline (level + 1) ++ item.writePretty (level + 1) ++
        writePrettyItems level items

def writePrettyMembers (level : Nat) : List (String × Json) → List Char
  | [] => newline level ++ ['}']
  | (name, value) :: rest =>
      ',' :: newline (level + 1) ++ writeString name ++ ':' :: ' ' ::
        value.writePretty (level + 1) ++ writePrettyMembers level rest

end

def compact (v : Json) : String := String.ofList v.write

def pretty (v : Json) : String := String.ofList (v.writePretty 0)

end Json

end HttpScenario
