namespace HttpScenario

/-! Members of an object: pairs of a name and a value in a fixed order. A name
is looked up by its first pair. -/

abbrev Members (α : Type) := List (String × α)

namespace Members

variable {α : Type}

def find? (name : String) : Members α → Option α
  | [] => none
  | (key, value) :: rest => if key = name then some value else find? name rest

/-- Gives a member a value: in its place when it is there, at the end otherwise. -/
def put (name : String) (value : α) : Members α → Members α
  | [] => [(name, value)]
  | (key, old) :: rest =>
      if key = name then (key, value) :: rest else (key, old) :: put name value rest

/-- Leaves out every pair of a name. -/
def erase (name : String) (members : Members α) : Members α :=
  members.filter fun member => !(member.1 == name)

def names (members : Members α) : List String :=
  members.map Prod.fst

/-- The members that pairs describe one after the other: the first pair of a
name fixes the place, the last one the value. -/
def ofPairs (pairs : List (String × α)) : Members α :=
  pairs.foldl (fun members pair => members.put pair.1 pair.2) []

@[simp] theorem find?_put_self (name : String) (value : α) (members : Members α) :
    (members.put name value).find? name = some value := by
  induction members with
  | nil => simp [put, find?]
  | cons member rest ih =>
      by_cases h : member.1 = name
      · simp [put, find?, h]
      · simp [put, find?, h, ih]

theorem find?_put_of_ne {name other : String} (h : other ≠ name) (value : α)
    (members : Members α) :
    (members.put name value).find? other = members.find? other := by
  induction members with
  | nil => simp [put, find?, Ne.symm h]
  | cons member rest ih =>
      rw [put]
      split
      · next hname => simp [find?, hname, Ne.symm h]
      · next hname =>
          by_cases hother : member.1 = other
          · simp [find?, hother]
          · simp [find?, hother, ih]

@[simp] theorem find?_erase_self (name : String) (members : Members α) :
    (members.erase name).find? name = none := by
  induction members with
  | nil => rfl
  | cons member rest ih =>
      by_cases h : member.1 = name
      · rw [erase, List.filter_cons_of_neg (by simp [h])]
        exact ih
      · rw [erase, List.filter_cons_of_pos (by simp [h]), find?, if_neg h]
        exact ih

end Members

end HttpScenario
