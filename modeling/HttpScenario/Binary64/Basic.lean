namespace HttpScenario

/-! Finite binary64 numbers. The magnitudes are numbered in increasing order:
code `c` is the `c`-th magnitude, zero being code `0`. Bits 52 and up of a code
are the biased exponent, the bits below them the fraction. -/

/-- One more than the code of the largest finite magnitude. -/
def Binary64.codeLimit : Nat := 2047 * Nat.pow 2 52

/-- A finite binary64 number. Zero has a sign. -/
structure Binary64 where
  negative : Bool
  code : Nat
  code_lt : code < Binary64.codeLimit := by decide
deriving DecidableEq

namespace Binary64

/-- The magnitude of a code, in units of `2 ^ (-1074)`. -/
def units (code : Nat) : Nat :=
  if code < Nat.pow 2 52 then code
  else (Nat.pow 2 52 + code % Nat.pow 2 52) * Nat.pow 2 (code / Nat.pow 2 52 - 1)

def nearestEven (n d : Nat) : Nat :=
  let q := n / d
  let r := n % d
  if 2 * r < d then q
  else if d < 2 * r then q + 1
  else q + q % 2

/-- The code of the magnitude nearest to `n / d`; of two equally near, the even
one. A code of `codeLimit` or more means that the quotient is too large. -/
def nearestCode (n d : Nat) : Nat :=
  let m := n * Nat.pow 2 1074
  let shift := (m / d).log2 - 52
  shift * Nat.pow 2 52 + nearestEven m (d * Nat.pow 2 shift)

def mulCode (a b : Nat) : Nat :=
  nearestCode (units a * units b) (Nat.pow 2 2148)

def divCode (a b : Nat) : Nat :=
  nearestCode (units a) (units b)

def tenPowCode (k : Nat) : Nat :=
  nearestCode (Nat.pow 10 k) 1

def ofCode? (negative : Bool) (code : Nat) : Option Binary64 :=
  if h : code < codeLimit then some ⟨negative, code, h⟩ else none

def zero (negative : Bool) : Binary64 :=
  { negative, code := 0 }

def same (x y : Binary64) : Bool :=
  x.code == y.code && (x.negative == y.negative || x.code == 0)

/-! A decimal `significand * 10 ^ exponent` is scaled by binary64
multiplications and divisions, each rounded on its own, so that the outcome may
be a neighbour of the nearest number. -/

/-- Divides a coded magnitude by `10 ^ k`, at most 308 powers at a time. -/
def scaleDown (code : Nat) (k : Nat) : Nat :=
  if h : k ≤ 308 then divCode code (tenPowCode k)
  else if code = 0 then code
  else scaleDown (divCode code (tenPowCode 308)) (k - 308)
termination_by k

/-- Multiplies a coded magnitude by `10 ^ k`; `none` when it grows too large. -/
def scaleUp? (code : Nat) (k : Nat) : Option Nat :=
  if k ≤ 308 then
    let scaled := mulCode code (tenPowCode k)
    if scaled < codeLimit then some scaled else none
  else if code = 0 then some code
  else none

/-- The number that a decimal literal stands for; `none` when out of range. -/
def ofDecimal? (negative : Bool) (significand : Nat) (exponent : Int) : Option Binary64 :=
  let code := nearestCode significand 1
  let scaled? :=
    match exponent with
    | .ofNat k => scaleUp? code k
    | .negSucc k => some (scaleDown code (k + 1))
  scaled?.bind (ofCode? negative)

end Binary64

end HttpScenario
