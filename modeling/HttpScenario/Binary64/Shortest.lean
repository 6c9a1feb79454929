import HttpScenario.Binary64.Basic

namespace HttpScenario.Binary64

/-! The fewest decimal digits that read back. A decimal reads back as the
magnitude of code `c` when it lies between the midpoints to the magnitudes of
`c - 1` and `c + 1`; the midpoints themselves count when `c` is even. -/

/-- A decimal `digits * 10 ^ (place - 400)`, its places counted from a fixed
one below every digit that a binary64 number needs. -/
structure Decimal where
  digits : Nat
  place : Nat
deriving DecidableEq

/-- The place that carries the unit digit. -/
def unitPlace : Nat := 400

/-- The doubled magnitude of `code`, in units of `2 ^ (-1075) / 10 ^ unitPlace`. -/
def doubled (code : Nat) : Nat := 2 * units code * Nat.pow 10 unitPlace

def midpoint (code : Nat) : Nat :=
  (units code + units (code + 1)) * Nat.pow 10 unitPlace

def gridOf (place : Nat) : Nat := Nat.pow 10 place * Nat.pow 2 1075

/-- Whether a multiple in those units reads back as `code`. -/
def readsBack (code : Nat) (point : Nat) : Bool :=
  let low := midpoint (code - 1)
  let high := midpoint code
  if code % 2 = 0 then low ≤ point && point ≤ high
  else low < point && point < high

/-- The decimal of a given place that is nearest to `code` among its two
neighbours there, if one of them reads back. -/
def atPlace? (code : Nat) (place : Nat) : Option Decimal :=
  let grid := gridOf place
  let value := doubled code
  let below := value / grid
  let lowOk := readsBack code (below * grid)
  let highOk := readsBack code ((below + 1) * grid)
  let toLow := value - below * grid
  let toHigh := (below + 1) * grid - value
  if lowOk && highOk then
    if toLow < toHigh || (toLow == toHigh && below % 2 == 0) then some ⟨below, place⟩
    else some ⟨below + 1, place⟩
  else if lowOk then some ⟨below, place⟩
  else if highOk then some ⟨below + 1, place⟩
  else none

def firstPlace (code : Nat) : Nat → Nat → Decimal
  | 0, place => ⟨doubled code / gridOf place, place⟩
  | count + 1, place =>
      match atPlace? code place with
      | some found => found
      | none => firstPlace code count (place - 1)

/-- The decimal with the fewest digits that reads back as `code`. Seventeen
digits always suffice. -/
def shortest (code : Nat) : Decimal :=
  let leading := (Nat.toDigits 10 (doubled code / Nat.pow 2 1075)).length - 1
  firstPlace code 17 leading

/-! The written form: positional from `0.00001` up to below `10 ^ 16`, with at
least one digit after the point, and scientific with a signed exponent elsewhere. -/

def dropTrailingZeros (digits : List Char) : List Char :=
  (digits.reverse.dropWhile (· == '0')).reverse

/-- Writes nonempty significant digits whose first one stands for
`10 ^ exponent`. -/
def layout (digits : List Char) (exponent : Int) : List Char :=
  if -5 ≤ exponent ∧ exponent < 16 then
    match exponent with
    | .ofNat e =>
        let whole := digits.take (e + 1) ++ List.replicate (e + 1 - digits.length) '0'
        let fraction := digits.drop (e + 1)
        whole ++ '.' :: (if fraction.isEmpty then ['0'] else fraction)
    | .negSucc e => '0' :: '.' :: List.replicate e '0' ++ digits
  else
    let mantissa :=
      match digits with
      | first :: second :: rest => first :: '.' :: second :: rest
      | _ => digits
    let sign := if exponent < 0 then '-' else '+'
    mantissa ++ 'e' :: sign :: Nat.toDigits 10 exponent.natAbs

def writeMagnitude (code : Nat) : List Char :=
  if code = 0 then ['0', '.', '0']
  else
    let decimal := shortest code
    let digits := Nat.toDigits 10 decimal.digits
    layout (dropTrailingZeros digits)
      ((digits.length + decimal.place : Nat) - (unitPlace + 1 : Nat) : Int)

def write (x : Binary64) : List Char :=
  if x.negative then '-' :: writeMagnitude x.code else writeMagnitude x.code

end HttpScenario.Binary64
