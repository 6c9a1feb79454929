import HttpScenario.Text.Digit

namespace HttpScenario.Domain.Punycode

/-! Punycode: texts written with ASCII characters only. The ASCII characters of a
text come first. The others follow in increasing order, each as the number of places
and code points that are passed over since the one before, in a notation whose digits
adapt to the size of the numbers. -/

def radix : Nat := 36

/-- The digits of a number end with the first one below a threshold, which depends on
the place of the digit. Places are counted in steps of `radix`. -/
def threshold (bias place : Nat) : Nat := max 1 (min 26 (place - bias))

/-- The places that the digits of a number of this size are counted from. -/
def biasOf (offset delta : Nat) : Nat :=
  if delta ≤ 455 then offset + radix * delta / (delta + 38)
  else biasOf (offset + radix) (delta / 35)
termination_by delta
decreasing_by omega

/-- The bias after a number, with the count of characters that are written by then. -/
def adapt (delta count : Nat) (first : Bool) : Nat :=
  let delta := if first then delta / 700 else delta / 2
  biasOf 0 (delta + delta / count)

def firstBias : Nat := 72

def firstCode : Nat := 0x80

def isBasic (c : Char) : Bool := c.toNat < firstCode

def digit (n : Nat) : Char :=
  if n < 26 then Char.ofNat ('a'.toNat + n) else Char.ofNat ('0'.toNat + (n - 26))

def digitValue? (c : Char) : Option Nat :=
  if 'a' ≤ c ∧ c ≤ 'z' then some (c.toNat - 'a'.toNat)
  else if '0' ≤ c ∧ c ≤ '9' then some (c.toNat - '0'.toNat + 26)
  else none

theorem digitValue?_digit {n : Nat} (h : n < radix) : digitValue? (digit n) = some n := by
  have all : ∀ m ∈ List.range radix, digitValue? (digit m) = some m := by decide
  exact all n (List.mem_range.mpr h)

theorem threshold_pos (bias place : Nat) : 0 < threshold bias place := by
  unfold threshold
  omega

def writeNumber (bias place n : Nat) : List Char :=
  let t := threshold bias place
  if n < t then [digit n]
  else
    digit (t + (n - t) % (radix - t)) ::
      writeNumber bias (place + radix) ((n - t) / (radix - t))
termination_by n
decreasing_by
  have pos := threshold_pos bias place
  have le := Nat.div_le_self (n - threshold bias place) (radix - threshold bias place)
  omega

/-- What is written so far: the characters, the last one first, how many code points
are written, the next code point, the number to write for it, and the bias. -/
structure Written where
  text : List Char
  count : Nat
  basicCount : Nat
  code : Nat := firstCode
  delta : Nat := 0
  bias : Nat := firstBias

/-- Passes over a character, or writes it when its turn has come. -/
def Written.pass (written : Written) (c : Char) : Written :=
  if c.toNat < written.code then { written with delta := written.delta + 1 }
  else if c.toNat = written.code then
    { written with
      text := (writeNumber written.bias radix written.delta).reverse ++ written.text
      count := written.count + 1
      delta := 0
      bias := adapt written.delta (written.count + 1) (written.count == written.basicCount) }
  else written

def Written.passAll (cs : List Char) (written : Written) (code : Nat) : Written :=
  let delta := written.delta + (code - written.code) * (written.count + 1)
  let written := cs.foldl Written.pass { written with code, delta }
  { written with code := code + 1, delta := written.delta + 1 }

def codes (cs : List Char) : List Nat :=
  (((cs.filter (!isBasic ·)).map Char.toNat).mergeSort (· ≤ ·)).eraseDups

def encode (cs : List Char) : List Char :=
  let basic := cs.filter isBasic
  let start := if basic.isEmpty then [] else '-' :: basic.reverse
  let written : Written := { text := start, count := basic.length, basicCount := basic.length }
  ((codes cs).foldl (Written.passAll cs) written).text.reverse

/-- What is read so far: the text, the code point and the place of the next character,
and, of the number that is being read, where it began, the weight of its next digit
and the place of that digit. -/
structure Pending where
  text : List Char
  code : Nat := firstCode
  index : Nat := 0
  start : Nat := 0
  weight : Nat := 1
  place : Nat := radix
  bias : Nat := firstBias

def numberLimit : Nat := Nat.pow 2 32

/-- Takes the character that a finished number stands for into the text. -/
def Pending.finish? (pending : Pending) : Option Pending :=
  let count := pending.text.length + 1
  let code := pending.code + pending.index / count
  let index := pending.index % count
  if code.isValidChar then
    some {
      text := pending.text.insertIdx index (Char.ofNat code)
      code
      index := index + 1
      start := index + 1
      bias := adapt (pending.index - pending.start) count (pending.start == 0) }
  else none

def Pending.read? (pending : Pending) (c : Char) : Option Pending := do
  let d ← digitValue? c
  let t := threshold pending.bias pending.place
  let index := pending.index + d * pending.weight
  let weight := pending.weight * (radix - t)
  if numberLimit ≤ index then none
  else if d < t then ({ pending with index := index } : Pending).finish?
  else if numberLimit ≤ weight then none
  else return { pending with index, weight, place := pending.place + radix }

/-- The part before the last hyphen, if there is something before it, and the rest. -/
def splitBasic (cs : List Char) : List Char × List Char :=
  let digits := (cs.reverse.takeWhile (· != '-')).reverse
  let basic := cs.take (cs.length - digits.length - 1)
  if basic.isEmpty then ([], cs) else (basic, digits)

def decode? (cs : List Char) : Option (List Char) := do
  let (basic, digits) := splitBasic cs
  let pending ← digits.foldlM Pending.read? { text := basic }
  if pending.place = radix then return pending.text else none

end HttpScenario.Domain.Punycode
