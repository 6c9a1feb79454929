import HttpScenario.Text.Printable

namespace HttpScenario.Text

def quoteChar (c : Char) : List Char :=
  match c with
  | '\x00' => ['\\', '0']
  | '\t' => ['\\', 't']
  | '\n' => ['\\', 'n']
  | '\r' => ['\\', 'r']
  | '"' => ['\\', '"']
  | '\\' => ['\\', '\\']
  | c =>
      if isPrintable c then [c]
      else ['\\', 'u', '{'] ++ Nat.toDigits 16 c.toNat ++ ['}']

def quote (s : String) : String :=
  String.ofList ('"' :: s.toList.flatMap quoteChar ++ ['"'])

end HttpScenario.Text
