import HttpScenario.Text.Digit

namespace HttpScenario.Url

/-! An IPv4 address has up to four numbers in one of three radixes; the last one fills
what the others leave. -/

def addressPart? (cs : List Char) : Option Nat :=
  match cs with
  | [] => none
  | '0' :: 'x' :: rest => Text.digitsValue? 16 rest
  | '0' :: 'X' :: rest => Text.digitsValue? 16 rest
  | '0' :: rest => Text.digitsValue? 8 rest
  | cs => Text.digitsValue? 10 cs

def hostParts (cs : List Char) : List (List Char) :=
  let parts := cs.splitOn '.'
  if 1 < parts.length ∧ parts.getLast? = some [] then parts.dropLast else parts

/-- Whether a host has to be an address: its last part is a number. -/
def endsInNumber (cs : List Char) : Bool :=
  match (hostParts cs).getLast? with
  | none => false
  | some part => (!part.isEmpty && part.all Char.isDigit) || (addressPart? part).isSome

def addressValue? (parts : List (List Char)) : Option Nat := do
  let numbers ← parts.mapM addressPart?
  let last ← numbers.getLast?
  let front := numbers.dropLast
  if 3 < front.length ∨ front.any (255 < ·) then none
  else if Nat.pow 256 (4 - front.length) ≤ last then none
  else some (front.zipIdx.foldl (fun n part => n + part.1 * Nat.pow 256 (3 - part.2)) last)

def writeAddress (n : Nat) : String :=
  ".".intercalate ([3, 2, 1, 0].map fun i => toString (n / Nat.pow 256 i % 256))

/-! An IPv6 address has eight numbers of sixteen bits, written in radix sixteen
between colons. The last two may be written as an IPv4 address with four decimal
numbers, and two colons stand for as many zeros as are missing. -/

def decimalByte? (cs : List Char) : Option Nat := do
  if cs.isEmpty ∨ (1 < cs.length ∧ cs.head? = some '0') then none
  else
    let n ← Text.digitsValue? 10 cs
    if n ≤ 255 then return n else none

def decimalPieces? (cs : List Char) : Option (List Nat) := do
  match ← (cs.splitOn '.').mapM decimalByte? with
  | [a, b, c, d] => return [a * 256 + b, c * 256 + d]
  | _ => none

def piece? (cs : List Char) : Option Nat :=
  if cs.isEmpty ∨ 4 < cs.length then none else Text.digitsValue? 16 cs

/-- The numbers that pieces stand for; `atEnd` tells whether they are the last ones of
an address. -/
def readPieces? (atEnd : Bool) : List (List Char) → Option (List Nat)
  | [] => some []
  | [last] =>
      if atEnd && last.contains '.' then decimalPieces? last else (piece? last).map ([·])
  | first :: rest => do return (← piece? first) :: (← readPieces? atEnd rest)

def readSide? (atEnd : Bool) (cs : List Char) : Option (List Nat) :=
  if cs.isEmpty then some [] else readPieces? atEnd (cs.splitOn ':')

def splitAtGap : List Char → Option (List Char × List Char)
  | ':' :: ':' :: rest => some ([], rest)
  | c :: rest => (splitAtGap rest).map fun (before, after) => (c :: before, after)
  | [] => none

def readSixteens? (cs : List Char) : Option (List Nat) := do
  match splitAtGap cs with
  | none =>
      let pieces ← readSide? true cs
      if pieces.length = 8 then return pieces else none
  | some (before, after) =>
      let before ← readSide? false before
      let after ← readSide? true after
      let count := before.length + after.length
      if count ≤ 7 then return before ++ List.replicate (8 - count) 0 ++ after else none

/-- The first one of the longest runs of two or more zeros: its place and length. -/
def longestZeros? (pieces : List Nat) : Option (Nat × Nat) :=
  [8, 7, 6, 5, 4, 3, 2].findSome? fun length =>
    ((List.range (9 - length)).find? fun place =>
      ((pieces.drop place).take length).all (· == 0)).map (·, length)

def writeSixteens (pieces : List Nat) : String :=
  let side (pieces : List Nat) : String :=
    ":".intercalate (pieces.map fun n => String.ofList (Nat.toDigits 16 n))
  match longestZeros? pieces with
  | none => side pieces
  | some (place, length) =>
      side (pieces.take place) ++ "::" ++ side (pieces.drop (place + length))

end HttpScenario.Url
