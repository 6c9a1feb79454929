import HttpScenario.Proofs.Json.Change
import HttpScenario.Proofs.Json.Removal

namespace HttpScenario

namespace Json

/-- A container without one of its steps. The other members keep their order, and the
elements behind the one that is gone move up. -/
inductive Lacks : Step → Json → Json → Prop where
  | member {name : String} {members others : Members Json} (hthere : name ∈ members.names)
      (hnames : others.names = members.names.filter (· ≠ name))
      (hkept : ∀ other, other ≠ name → others.find? other = members.find? other) :
      Lacks (.key name) (.obj members) (.obj others)
  | element {i : Nat} {items others : List Json} (hthere : i < items.length)
      (hlength : others.length + 1 = items.length)
      (hbefore : ∀ j, j < i → others[j]? = items[j]?)
      (hbehind : ∀ j, i ≤ j → others[j]? = items[j + 1]?) :
      Lacks (.index i) (.arr items) (.arr others)

theorem lacks_eraseIdx {items : List Json} {i : Nat} (h : i < items.length) :
    Lacks (.index i) (.arr items) (.arr (items.eraseIdx i)) := by
  refine .element h ?_ ?_ ?_
  · have hlength := List.length_eraseIdx_of_lt h
    omega
  · intro j hj
    exact List.getElem?_eraseIdx_of_lt hj
  · intro j hj
    exact List.getElem?_eraseIdx_of_ge hj

end Json

namespace Target

variable {v w : Json} {step : Step}

theorem exists_removeOne? (h : (v.step? step).isSome) : ∃ w, removeOne? v step = some w := by
  cases step with
  | key name =>
      cases v with
      | obj members => exact ⟨_, if_pos h⟩
      | _ => cases h
  | index i =>
      cases v with
      | arr items =>
          have hi : i < items.length := by simpa [Json.step?, Json.item?] using h
          exact ⟨_, if_pos hi⟩
      | _ => cases h

theorem removeOne?_eq_some (h : removeOne? v step = some w) :
    (v.step? step).isSome ∧ v.Lacks step w := by
  cases step with
  | key name =>
      cases v with
      | obj members =>
          rw [removeOne?, Option.ite_none_right_eq_some] at h
          obtain ⟨hthere, h⟩ := h
          cases h
          obtain ⟨value, hvalue⟩ := Option.isSome_iff_exists.mp hthere
          exact ⟨hthere, .member (Members.mem_names_of_find? hvalue)
            (Members.names_erase name members)
            fun other hother => Members.find?_erase_of_ne hother members⟩
      | _ => cases h
  | index i =>
      cases v with
      | arr items =>
          rw [removeOne?, Option.ite_none_right_eq_some] at h
          obtain ⟨hi, h⟩ := h
          cases h
          exact ⟨by simpa [Json.step?, Json.item?] using hi, Json.lacks_eraseIdx hi⟩
      | _ => cases h

def EndsInKey (target : Target) : Prop := ∃ name, target.step = .key name

end Target

/-- The containers that lose something to a path, with their places: those in which the
path addresses a step that is there. -/
def Path.Strips (path : Path) (v : Json) (place : Place) (container : Json) : Prop :=
  path.Addresses v place container ∧ (container.step? path.target.step).isSome

namespace Json

/-- The document `w` is `v` with a step gone from the containers at some places. Above them
containers keep their shape, and nothing changes anywhere else. -/
structure StrippedAt (strips : Place → Json → Prop) (step : Step) (v w : Json) : Prop where
  stripped : ∀ {place container}, strips place container →
    v.descend? place = some container ∧
      ∃ rest, w.descend? place = some rest ∧ container.Lacks step rest
  apart : ∀ {place}, (∀ spot container, strips spot container →
      ¬ spot <+: place ∧ ¬ place <+: spot) → w.descend? place = v.descend? place
  above : ∀ {place below container} {next : Step}, strips (place ++ next :: below) container →
    ∃ upper upper', v.descend? place = some upper ∧ w.descend? place = some upper' ∧
      upper.SameShape upper'
  idle : (∀ place container, ¬ strips place container) → w = v

theorem without_strippedAt (v : Json) (path : Path) :
    StrippedAt (path.Strips v) path.target.step v (v.without path) := by
  have hchange := alter?_changedAt Target.removeOne? v path
  rw [← remove?, ← without] at hchange
  refine ⟨?_, ?_, ?_, ?_⟩
  · rintro place container ⟨haddresses, hthere⟩
    obtain ⟨rest, hrest⟩ := Target.exists_removeOne? hthere
    obtain ⟨hbefore, hafter⟩ := hchange.changed ⟨haddresses, hrest⟩
    exact ⟨hbefore, rest, hafter, (Target.removeOne?_eq_some hrest).2⟩
  · intro place happart
    apply hchange.apart
    rintro spot container rest ⟨haddresses, hrest⟩
    exact happart spot container ⟨haddresses, (Target.removeOne?_eq_some hrest).1⟩
  · rintro place below container next ⟨haddresses, hthere⟩
    obtain ⟨rest, hrest⟩ := Target.exists_removeOne? hthere
    exact hchange.above ⟨haddresses, hrest⟩
  · intro hidle
    apply hchange.idle
    rintro place container rest ⟨haddresses, hrest⟩
    exact hidle place container ⟨haddresses, (Target.removeOne?_eq_some hrest).1⟩

def drop (name : String) : Json → Json
  | .obj members => .obj (Members.erase name members)
  | v => v

theorem removeOne?_key_getD (name : String) (v : Json) :
    (Target.removeOne? v (.key name)).getD v = v.drop name := by
  cases v with
  | obj members =>
      rw [Target.removeOne?]
      split
      · rfl
      · next hnone =>
          rw [Option.not_isSome_iff_eq_none, Members.find?_eq_none_iff] at hnone
          exact congrArg Json.obj (Members.erase_eq_self hnone).symm
  | _ => rfl

def dropTarget (name : String) (wildcard : Bool) (v : Json) : Json :=
  if wildcard then v.mapItems (drop name) else v.drop name

theorem without_eq_modify {path : Path} {name : String} (h : path.target.step = .key name)
    (v : Json) :
    v.without path = v.modify (dropTarget name path.target.isWildcard) path.parents := by
  have htarget : (fun w => (path.target.change? Target.removeOne? w).getD w) =
      dropTarget name path.target.isWildcard := by
    funext w
    rw [Target.change?_getD, h]
    simp only [removeOne?_key_getD]
    rfl
  rw [without, remove?, alter?_getD, htarget]

theorem step?_drop (name : String) (v : Json) : (v.drop name).step? (.key name) = none := by
  cases v with
  | obj members => exact Members.find?_erase_self name members
  | _ => rfl

theorem select?_dropTarget {target : Target} {name : String} (h : target.step = .key name)
    (v : Json) : target.select? (v.dropTarget name target.isWildcard) = none := by
  cases target with
  | key =>
      cases h
      exact step?_drop name v
  | index => cases h
  | eachKey =>
      cases h
      cases v with
      | arr items =>
          have hnothing : (items.map (drop name)).filterMap (·.step? (.key name)) = [] := by
            rw [List.filterMap_map, List.filterMap_eq_nil_iff]
            exact fun item _ => step?_drop name item
          simp [dropTarget, Target.isWildcard, Target.select?, Target.collect?, mapItems,
            hnothing]
      | _ => rfl
  | eachIndex => cases h

theorem get?_without {path : Path} (h : path.target.EndsInKey) (v : Json) :
    (v.without path).get? path = none := by
  obtain ⟨name, hname⟩ := h
  rw [get?, without_eq_modify hname, descend?_modify_self]
  cases v.descend? path.parents with
  | none => rfl
  | some reached => exact select?_dropTarget hname reached

/-- Removing what a path addresses succeeds, and takes exactly that out of its containers;
a member that was addressed by its name is gone. -/
theorem remove_strippedAt (v : Json) (path : Path) :
    ∃ w, v.remove path .skip = .ok w ∧
      StrippedAt (path.Strips v) path.target.step v w ∧
      (path.target.EndsInKey → w.get? path = none) :=
  ⟨v.without path, remove_skip v path, without_strippedAt v path, fun h => get?_without h v⟩

end Json

end HttpScenario
