import HttpScenario.Binary64.Basic
import HttpScenario.Toml.Lexical
import HttpScenario.Toml.Value

namespace HttpScenario.Toml

def readDigitsAfter (radix : Nat) (read : List Char) : List Char → List Char × List Char
  | c :: rest =>
      if Text.isDigit radix c then readDigitsAfter radix (c :: read) rest
      else
        match c, rest with
        | '_', d :: rest =>
            if Text.isDigit radix d then readDigitsAfter radix (d :: read) rest
            else (read.reverse, c :: d :: rest)
        | _, _ => (read.reverse, c :: rest)
  | [] => (read.reverse, [])

def readDigits (radix : Nat) (cs : List Char) : Option (List Char × List Char) :=
  match cs with
  | c :: rest => if Text.isDigit radix c then some (readDigitsAfter radix [c] rest) else none
  | [] => none

def readSign : List Char → Bool × List Char
  | '+' :: rest => (false, rest)
  | '-' :: rest => (true, rest)
  | cs => (false, cs)

def readDecimal (cs : List Char) : Option (List Char × List Char) :=
  match cs with
  | '0' :: rest => some (['0'], rest)
  | cs => readDigits 10 cs

def integerLimit : Int := Nat.pow 2 63

def ofInteger? (n : Int) : Option Toml :=
  if -integerLimit ≤ n ∧ n < integerLimit then some (.integer n) else none

def readInteger (cs : List Char) : Option (Toml × List Char) :=
  let inRadix (radix : Nat) (cs : List Char) : Option (Toml × List Char) := do
    let (digits, rest) ← readDigits radix cs
    return (← ofInteger? (← Text.digitsValue? radix digits), rest)
  match cs with
  | '0' :: 'x' :: rest => inRadix 16 rest
  | '0' :: 'o' :: rest => inRadix 8 rest
  | '0' :: 'b' :: rest => inRadix 2 rest
  | cs => do
      let (negative, cs) := readSign cs
      let (digits, rest) ← readDecimal cs
      let n : Int ← Text.digitsValue? 10 digits
      return (← ofInteger? (if negative then -n else n), rest)

def isFinite (significand : Nat) (exponent : Int) : Bool :=
  let leading := ((Nat.toDigits 10 significand).length : Int) + exponent
  if significand = 0 ∨ leading < -400 then true
  else if 400 < leading then false
  else
    let code :=
      match exponent with
      | .ofNat k => Binary64.nearestCode (significand * Nat.pow 10 k) 1
      | .negSucc k => Binary64.nearestCode significand (Nat.pow 10 (k + 1))
    code < Binary64.codeLimit

def readExponent (cs : List Char) : Option (Option Int × List Char) :=
  let exponent (cs : List Char) : Option (Option Int × List Char) := do
    let (negative, cs) := readSign cs
    let (digits, rest) ← readDigits 10 cs
    let n : Int ← Text.digitsValue? 10 digits
    return (some (if negative then -n else n), rest)
  match cs with
  | 'e' :: rest => exponent rest
  | 'E' :: rest => exponent rest
  | cs => some (none, cs)

def readFraction (cs : List Char) : Option (Option (List Char) × List Char) :=
  match cs with
  | '.' :: rest => (readDigits 10 rest).map fun (digits, rest) => (some digits, rest)
  | cs => some (none, cs)

def readWord (words : List (List Char)) (cs : List Char) : Option (List Char) :=
  words.findSome? fun word => word.isPrefixOf? cs

/-- Reads a float: one with a fraction or an exponent, infinity, or no number. A
positive one must not be too large. -/
def readFloat (cs : List Char) : Option (Toml × List Char) := do
  let (negative, cs) := readSign cs
  match readWord ["inf".toList, "nan".toList] cs with
  | some rest => return (.float, rest)
  | none =>
      let (whole, rest) ← readDecimal cs
      let (fraction, rest) ← readFraction rest
      let (exponent, rest) ← readExponent rest
      if fraction.isNone ∧ exponent.isNone then none
      else
        let fraction := fraction.getD []
        let significand ← Text.digitsValue? 10 (whole ++ fraction)
        if negative || isFinite significand (exponent.getD 0 - fraction.length) then
          return (.float, rest)
        else none

def readUpTo (largest : Nat) (cs : List Char) : Option (List Char) := do
  let (n, rest) ← readFixed 10 2 cs
  if n ≤ largest then return rest else none

def daysIn (year month : Nat) : Nat :=
  if month = 2 then
    if year % 4 = 0 ∧ (year % 100 ≠ 0 ∨ year % 400 = 0) then 29 else 28
  else if month = 4 ∨ month = 6 ∨ month = 9 ∨ month = 11 then 30
  else 31

def readDate (cs : List Char) : Option (List Char) := do
  let (year, cs) ← readFixed 10 4 cs
  let (month, cs) ← readFixed 10 2 (← expect '-' cs)
  let (day, cs) ← readFixed 10 2 (← expect '-' cs)
  if 1 ≤ month ∧ month ≤ 12 ∧ 1 ≤ day ∧ day ≤ daysIn year month then return cs else none

/-- Reads a time of day. A second may be the sixty-first one of its minute. -/
def readTime (cs : List Char) : Option (List Char) := do
  let cs ← readUpTo 23 cs
  let cs ← readUpTo 59 (← expect ':' cs)
  let cs ← readUpTo 60 (← expect ':' cs)
  match cs with
  | '.' :: rest =>
      let digits := rest.takeWhile Char.isDigit
      if digits.isEmpty then none else return rest.dropWhile Char.isDigit
  | cs => return cs

def readOffset (cs : List Char) : Option (List Char) :=
  let offset (cs : List Char) : Option (List Char) := do
    let cs ← readUpTo 23 cs
    readUpTo 59 (← expect ':' cs)
  match cs with
  | 'Z' :: rest => some rest
  | 'z' :: rest => some rest
  | '+' :: rest => offset rest
  | '-' :: rest => offset rest
  | cs => some cs

def isTimeMark (c : Char) : Bool := c == 'T' || c == 't' || c == ' '

def readMoment (cs : List Char) : Option (Toml × List Char) :=
  match readDate cs with
  | some rest =>
      match rest with
      | c :: time =>
          if isTimeMark c then
            match readTime time with
            | some rest => (readOffset rest).map (.moment, ·)
            | none => some (.moment, rest)
          else some (.moment, rest)
      | [] => some (.moment, [])
  | none => (readTime cs).map (.moment, ·)

def readNumber (cs : List Char) : Option (Toml × List Char) :=
  readMoment cs <|> readFloat cs <|> readInteger cs

end HttpScenario.Toml
