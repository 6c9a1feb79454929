namespace HttpScenario.Text

def base64Digit (n : Nat) : Char :=
  if n < 26 then Char.ofNat ('A'.toNat + n)
  else if n < 52 then Char.ofNat ('a'.toNat + (n - 26))
  else if n < 62 then Char.ofNat ('0'.toNat + (n - 52))
  else if n = 62 then '+'
  else '/'

def base64Digits (n : Nat) : List Char :=
  [n / 262144, n / 4096 % 64, n / 64 % 64, n % 64].map base64Digit

def base64 : List UInt8 → List Char
  | [] => []
  | [a] => (base64Digits (a.toNat * 65536)).take 2 ++ ['=', '=']
  | [a, b] => (base64Digits (a.toNat * 65536 + b.toNat * 256)).take 3 ++ ['=']
  | a :: b :: c :: rest =>
      base64Digits (a.toNat * 65536 + b.toNat * 256 + c.toNat) ++ base64 rest

end HttpScenario.Text
