namespace HttpScenario.Text

def hexDigit? (c : Char) : Option Nat :=
  let c := c.toLower
  if '0' ≤ c ∧ c ≤ '9' then some (c.toNat - '0'.toNat)
  else if 'a' ≤ c ∧ c ≤ 'f' then some (c.toNat - 'a'.toNat + 10)
  else none

def digit? (radix : Nat) (c : Char) : Option Nat := (hexDigit? c).filter (· < radix)

def isDigit (radix : Nat) (c : Char) : Bool := (digit? radix c).isSome

/-- The number that digits stand for behind those of `value`. -/
def digitsValueFrom? (radix : Nat) : (value : Nat) → List Char → Option Nat
  | value, [] => some value
  | value, c :: rest =>
      match digit? radix c with
      | some d => digitsValueFrom? radix (value * radix + d) rest
      | none => none

def digitsValue? (radix : Nat) (cs : List Char) : Option Nat := digitsValueFrom? radix 0 cs

theorem hexDigit?_digitChar {n : Nat} (h : n < 16) : hexDigit? (Nat.digitChar n) = some n := by
  have all : ∀ d ∈ List.range 16, hexDigit? (Nat.digitChar d) = some d := by decide
  exact all n (List.mem_range.mpr h)

theorem digit?_digitChar {radix n : Nat} (hradix : radix ≤ 16) (h : n < radix) :
    digit? radix (Nat.digitChar n) = some n := by
  rw [digit?, hexDigit?_digitChar (Nat.lt_of_lt_of_le h hradix)]
  simp [h]

end HttpScenario.Text
