import HttpScenario.Json.Value
import HttpScenario.Proofs.Json.Members
import Mathlib.Algebra.Group.Int.Defs
import Mathlib.Algebra.Group.Nat.Defs

namespace HttpScenario

/-- An integer that a text can hold as one. Beyond these bounds a literal is read
as a float. -/
def Number.InRange : Number → Prop
  | .int n => -(2 ^ 63) ≤ n ∧ n < 2 ^ 64
  | .float _ => True

namespace Json

section Induction

variable {motive : Json → Prop}
  (null : motive .null) (bool : ∀ b, motive (.bool b)) (num : ∀ n, motive (.num n))
  (str : ∀ s, motive (.str s))
  (arr : ∀ items, (∀ item ∈ items, motive item) → motive (.arr items))
  (obj : ∀ members, (∀ member ∈ members, motive member.2) → motive (.obj members))

include null bool num str arr obj

theorem induct : (v : Json) → motive v
  | .null => null
  | .bool b => bool b
  | .num n => num n
  | .str s => str s
  | .arr items => arr items fun item _ => induct item
  | .obj members => obj members fun member _ => induct member.2
termination_by v => sizeOf v
decreasing_by
  · have hitem := List.sizeOf_lt_of_mem ‹item ∈ items›
    simp only [Json.arr.sizeOf_spec]
    omega
  · have hmember := List.sizeOf_lt_of_mem ‹member ∈ members›
    have hvalue : sizeOf member = 1 + sizeOf member.1 + sizeOf member.2 := rfl
    simp only [Json.obj.sizeOf_spec]
    omega

end Induction

attribute [elab_as_elim, induction_eliminator] induct

/-- A document as the reader gives it: every integer is in range, and no object
has two members of one name. -/
inductive WellFormed : Json → Prop where
  | null : WellFormed .null
  | bool (b : Bool) : WellFormed (.bool b)
  | num {n : Number} (hrange : n.InRange) : WellFormed (.num n)
  | str (s : String) : WellFormed (.str s)
  | arr {items : List Json} (hitems : ∀ item ∈ items, WellFormed item) :
      WellFormed (.arr items)
  | obj {members : Members Json} (hdistinct : members.Distinct)
      (hmembers : ∀ member ∈ members, WellFormed member.2) : WellFormed (.obj members)

theorem WellFormed.inRange {n : Number} (h : WellFormed (.num n)) : n.InRange := by
  cases h with
  | num hrange => exact hrange

theorem WellFormed.items {items : List Json} (h : WellFormed (.arr items)) :
    ∀ item ∈ items, item.WellFormed := by
  cases h with
  | arr hitems => exact hitems

theorem WellFormed.distinct {members : Members Json} (h : WellFormed (.obj members)) :
    members.Distinct := by
  cases h with
  | obj hdistinct _ => exact hdistinct

theorem WellFormed.members {members : Members Json} (h : WellFormed (.obj members)) :
    ∀ member ∈ members, member.2.WellFormed := by
  cases h with
  | obj _ hmembers => exact hmembers

theorem WellFormed.put {members : Members Json} (h : WellFormed (.obj members)) (name : String)
    {value : Json} (hvalue : value.WellFormed) : WellFormed (.obj (members.put name value)) :=
  .obj (h.distinct.put name value) (Members.forall_put h.members hvalue)

theorem WellFormed.erase {members : Members Json} (h : WellFormed (.obj members))
    (name : String) : WellFormed (.obj (members.erase name)) :=
  .obj (h.distinct.erase name) fun member hmember =>
    h.members member (Members.mem_of_mem_erase hmember)

theorem WellFormed.find? {members : Members Json} (h : WellFormed (.obj members))
    {name : String} {value : Json} (hfind : members.find? name = some value) :
    value.WellFormed :=
  h.members _ (Members.mem_of_find? hfind)

theorem depthItems_le {items : List Json} {limit : Nat} :
    depthItems items ≤ limit ↔ ∀ item ∈ items, item.depth ≤ limit := by
  induction items with
  | nil => simp [depthItems]
  | cons item items ih => simp only [depthItems, Nat.max_le, ih, List.forall_mem_cons]

theorem depthMembers_le {members : Members Json} {limit : Nat} :
    depthMembers members ≤ limit ↔ ∀ member ∈ members, member.2.depth ≤ limit := by
  induction members with
  | nil => simp [depthMembers]
  | cons member members ih => simp only [depthMembers, Nat.max_le, ih, List.forall_mem_cons]

theorem depth_arr_le {items : List Json} {limit : Nat} :
    depth (.arr items) ≤ limit + 1 ↔ ∀ item ∈ items, item.depth ≤ limit := by
  rw [depth, Nat.add_le_add_iff_right, depthItems_le]

theorem depth_obj_le {members : Members Json} {limit : Nat} :
    depth (.obj members) ≤ limit + 1 ↔ ∀ member ∈ members, member.2.depth ≤ limit := by
  rw [depth, Nat.add_le_add_iff_right, depthMembers_le]

theorem depth_eq_zero {v : Json} (h : v.isContainer = false) : v.depth = 0 := by
  cases v with
  | arr => cases h
  | obj => cases h
  | _ => rfl

theorem depth_pos {v : Json} (h : v.isContainer = true) : 0 < v.depth := by
  cases v with
  | arr => exact Nat.succ_pos _
  | obj => exact Nat.succ_pos _
  | _ => cases h

end Json

end HttpScenario
