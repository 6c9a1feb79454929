import HttpScenario.Json.ParseError
import HttpScenario.Json.Value
import HttpScenario.Text.Digit

namespace HttpScenario.Json

/-! Number literals. The digits are gathered into a significand below `2 ^ 64`;
once a further digit does not fit, the digits before the point only count as
powers of ten and the digits after it are passed over. -/

def isDigit (c : Char) : Bool := Text.isDigit 10 c

def startsWithDigit : List Char → Bool
  | [] => false
  | c :: _ => isDigit c

def significandLimit : Nat := Nat.pow 2 64

structure Gathered where
  significand : Nat
  count : Nat
  rest : List Char

/-- Takes digits as long as the significand stays below `2 ^ 64`. -/
def gather (significand count : Nat) : List Char → Gathered
  | [] => ⟨significand, count, []⟩
  | c :: rest =>
      match Text.digit? 10 c with
      | none => ⟨significand, count, c :: rest⟩
      | some d =>
          if significand * 10 + d < significandLimit then
            gather (significand * 10 + d) (count + 1) rest
          else ⟨significand, count, c :: rest⟩

def exponentLimit : Nat := Nat.pow 2 31 - 1

/-- Takes the digits of an exponent; stops behind the first one with which it
passes the limit. -/
def gatherExponent (exponent : Nat) : List Char → Nat × List Char
  | [] => (exponent, [])
  | c :: rest =>
      match Text.digit? 10 c with
      | none => (exponent, c :: rest)
      | some d =>
          if exponent * 10 + d ≤ exponentLimit then
            gatherExponent (exponent * 10 + d) rest
          else (exponent * 10 + d, rest)

def finishFloat (negative : Bool) (significand : Nat) (exponent : Int)
    (rest : List Char) : Except Stop (Number × List Char) :=
  match Binary64.ofDecimal? negative significand exponent with
  | some x => .ok (.float x, rest)
  | none => .error (.before .numberOutOfRange rest)

def readExponent (negative : Bool) (significand : Nat) (start : Int)
    (cs : List Char) : Except Stop (Number × List Char) :=
  let (down, cs) :=
    match cs with
    | '+' :: rest => (false, rest)
    | '-' :: rest => (true, rest)
    | cs => (false, cs)
  if cs.isEmpty then .error (.before .unfinishedValue [])
  else if !startsWithDigit cs then .error (.inside .badNumber cs)
  else
    let (exponent, rest) := gatherExponent 0 cs
    if exponent ≤ exponentLimit then
      finishFloat negative significand
        (if down then start - exponent else start + exponent) rest
    else if significand ≠ 0 ∧ !down then .error (.before .numberOutOfRange rest)
    else .ok (.float (.zero negative), rest.dropWhile isDigit)

def readFloatTail (negative : Bool) (significand : Nat) (exponent : Int)
    (cs : List Char) : Except Stop (Number × List Char) :=
  match cs with
  | 'e' :: rest => readExponent negative significand exponent rest
  | 'E' :: rest => readExponent negative significand exponent rest
  | cs => finishFloat negative significand exponent cs

def readFraction (negative : Bool) (significand : Nat) (exponent : Int)
    (cs : List Char) : Except Stop (Number × List Char) :=
  let taken := gather significand 0 cs
  if startsWithDigit taken.rest then
    readFloatTail negative taken.significand (exponent - taken.count)
      (taken.rest.dropWhile isDigit)
  else if taken.count = 0 then
    .error (.inside (if cs.isEmpty then .unfinishedValue else .badNumber) cs)
  else
    readFloatTail negative taken.significand (exponent - taken.count) taken.rest

/-- An integer literal: minus zero and what is below `-2 ^ 63` are floats. -/
def ofInteger (negative : Bool) (significand : Nat) : Except Reason Number :=
  if !negative then .ok (.int significand)
  else if significand = 0 ∨ Nat.pow 2 63 < significand then
    match Binary64.ofDecimal? true significand 0 with
    | some x => .ok (.float x)
    | none => .error .numberOutOfRange
  else .ok (.int (-significand))

def readNumberTail (negative : Bool) (taken : Gathered) : Except Stop (Number × List Char) :=
  let extra := taken.rest.takeWhile isDigit
  let rest := taken.rest.dropWhile isDigit
  match rest with
  | '.' :: rest => readFraction negative taken.significand extra.length rest
  | 'e' :: rest => readExponent negative taken.significand extra.length rest
  | 'E' :: rest => readExponent negative taken.significand extra.length rest
  | rest =>
      if extra.isEmpty then
        match ofInteger negative taken.significand with
        | .ok n => .ok (n, rest)
        | .error reason => .error (.before reason rest)
      else finishFloat negative taken.significand extra.length rest

def readNumber (negative : Bool) (cs : List Char) : Except Stop (Number × List Char) :=
  match cs with
  | [] => .error (.before .unfinishedValue [])
  | '0' :: rest =>
      if startsWithDigit rest then .error (.inside .badNumber rest)
      else readNumberTail negative ⟨0, 1, rest⟩
  | c :: rest =>
      if isDigit c then readNumberTail negative (gather 0 0 (c :: rest))
      else .error (.inside .badNumber (c :: rest))

end HttpScenario.Json
