import HttpScenario.Proofs.Json.Erasure

namespace HttpScenario

/-! A path either addresses something or nothing, and reading, setting and removing agree on
which. Where it addresses nothing, a strict change reports the path and a lenient one leaves
the document as it is. -/

namespace Target

variable {v : Json} {target : Target} {holds : Json → Prop}

theorem exists_addresses_of_single (h : target.isWildcard = false) :
    (∃ place container, target.Addresses v place container ∧ holds container) ↔ holds v := by
  constructor
  · intro ⟨place, container, haddresses, hholds⟩
    cases haddresses with
    | itself => exact hholds
    | element hwildcard => cases h.symm.trans hwildcard
  · intro hholds
    exact ⟨[], v, .itself h, hholds⟩

theorem exists_addresses_of_wildcard (h : target.isWildcard = true) :
    (∃ place container, target.Addresses v place container ∧ holds container) ↔
      ∃ items, v = .arr items ∧ ∃ item ∈ items, holds item := by
  constructor
  · intro ⟨place, container, haddresses, hholds⟩
    cases haddresses with
    | itself hsingle => cases h.symm.trans hsingle
    | element _ hitem => exact ⟨_, rfl, container, List.mem_of_getElem? hitem, hholds⟩
  · intro ⟨items, hitems, item, hmem, hholds⟩
    obtain ⟨j, hj⟩ := List.mem_iff_getElem?.mp hmem
    subst hitems
    exact ⟨[.index j], item, .element h hj, hholds⟩

theorem collect?_isSome_iff (step : Step) (v : Json) :
    (collect? step v).isSome ↔
      ∃ items, v = .arr items ∧ ∃ item ∈ items, (item.step? step).isSome := by
  cases v with
  | arr items => simp [collect?, Option.isSome_iff_ne_none]
  | _ => simp [collect?]

theorem changeEach?_isSome_iff (change : Json → Option Json) (v : Json) :
    (changeEach? change v).isSome ↔
      ∃ items, v = .arr items ∧ ∃ item ∈ items, (change item).isSome := by
  cases v with
  | arr items => simp [changeEach?]
  | _ => simp [changeEach?]

theorem select?_of_wildcard (h : target.isWildcard = true) (v : Json) :
    target.select? v = collect? target.step v := by
  cases target with
  | key name => cases h
  | index i => cases h
  | eachKey name => rfl
  | eachIndex i => rfl

theorem change?_of_wildcard (h : target.isWildcard = true) (one : Json → Step → Option Json)
    (v : Json) : target.change? one v = changeEach? (one · target.step) v := by
  cases target with
  | key name => cases h
  | index i => cases h
  | eachKey name => rfl
  | eachIndex i => rfl

theorem select?_isSome_iff (target : Target) (v : Json) :
    (target.select? v).isSome ↔ ∃ place container, target.Addresses v place container ∧
      (container.step? target.step).isSome := by
  cases h : target.isWildcard with
  | false => rw [exists_addresses_of_single h, select?_of_single h]
  | true => rw [exists_addresses_of_wildcard h, select?_of_wildcard h, collect?_isSome_iff]

theorem change?_isSome_iff (one : Json → Step → Option Json) (target : Target) (v : Json) :
    (target.change? one v).isSome ↔ ∃ place container, target.Addresses v place container ∧
      (one container target.step).isSome := by
  cases h : target.isWildcard with
  | false => rw [exists_addresses_of_single h, change?_of_single h]
  | true => rw [exists_addresses_of_wildcard h, change?_of_wildcard h, changeEach?_isSome_iff]

end Target

theorem Path.exists_addresses_iff {path : Path} {v : Json} {holds : Json → Prop} :
    (∃ place container, path.Addresses v place container ∧ holds container) ↔
      ∃ reached, v.descend? path.parents = some reached ∧
        ∃ place container, path.target.Addresses reached place container ∧ holds container := by
  constructor
  · intro ⟨place, container, ⟨reached, below, hreached, haddresses, _⟩, hholds⟩
    exact ⟨reached, hreached, below, container, haddresses, hholds⟩
  · intro ⟨reached, hreached, below, container, haddresses, hholds⟩
    exact ⟨_, container, ⟨reached, below, hreached, haddresses, rfl⟩, hholds⟩

namespace Json

variable {v : Json} {path : Path}

theorem alter?_isSome_iff (change : Json → Option Json) (v : Json) (steps : List Step) :
    (v.alter? change steps).isSome ↔
      ∃ reached, v.descend? steps = some reached ∧ (change reached).isSome := by
  induction steps generalizing v with
  | nil => simp [alter?]
  | cons step steps ih =>
      rw [descend?_cons]
      cases hchild : v.step? step with
      | none => simp [alter?_of_none hchild]
      | some child => rw [alter?_of_some hchild, Option.isSome_map, Option.bind_some, ih child]

theorem get?_isSome_iff (v : Json) (path : Path) :
    (v.get? path).isSome ↔ ∃ place container, path.Addresses v place container ∧
      (container.step? path.target.step).isSome := by
  rw [Path.exists_addresses_iff, get?]
  cases v.descend? path.parents with
  | none => simp
  | some reached => simp [Target.select?_isSome_iff]

theorem change_isSome_iff (one : Json → Step → Option Json) (v : Json) (path : Path) :
    (v.alter? (path.target.change? one) path.parents).isSome ↔
      ∃ place container, path.Addresses v place container ∧
        (one container path.target.step).isSome := by
  rw [Path.exists_addresses_iff, alter?_isSome_iff]
  simp only [Target.change?_isSome_iff]

theorem removeOne?_isSome_iff (v : Json) (step : Step) :
    (Target.removeOne? v step).isSome ↔ (v.step? step).isSome := by
  constructor
  · intro h
    obtain ⟨w, hw⟩ := Option.isSome_iff_exists.mp h
    exact (Target.removeOne?_eq_some hw).1
  · intro h
    exact Option.isSome_iff_exists.mpr (Target.exists_removeOne? h)

theorem assignOne?_index_isSome_iff (x v : Json) (i : Nat) :
    (Target.assignOne? x v (.index i)).isSome ↔ (v.step? (.index i)).isSome := by
  cases v with
  | arr items => simp [Target.assignOne?, step?, item?]
  | _ => simp [Target.assignOne?, step?, item?]

theorem assignOne?_key_isSome_iff (x v : Json) (name : String) :
    (Target.assignOne? x v (.key name)).isSome ↔ ∃ members, v = .obj members := by
  cases v with
  | obj members => simp [Target.assignOne?]
  | _ => simp [Target.assignOne?]

theorem remove?_isSome_iff (v : Json) (path : Path) :
    (v.remove? path).isSome ↔ (v.get? path).isSome := by
  rw [remove?, change_isSome_iff, get?_isSome_iff]
  simp only [removeOne?_isSome_iff]

end Json

/-- Whether there is anything that a path can set: what it reads when it ends in an index, an
object when it ends in a key, an object among elements when it ends in a key of all of them. -/
def Path.Settable (path : Path) (v : Json) : Prop :=
  match path.target with
  | .index _ => (v.get? path).isSome
  | .eachIndex _ => (v.get? path).isSome
  | .key _ => ∃ members, v.descend? path.parents = some (.obj members)
  | .eachKey _ => ∃ items members, v.descend? path.parents = some (.arr items) ∧
      .obj members ∈ items

namespace Json

theorem assign?_isSome_iff (v : Json) (path : Path) (x : Json) :
    (v.assign? path x).isSome ↔ path.Settable v := by
  rw [assign?, change_isSome_iff, Path.Settable]
  cases htarget : path.target with
  | index i =>
      rw [get?_isSome_iff, htarget]
      simp only [Target.step, assignOne?_index_isSome_iff]
  | eachIndex i =>
      rw [get?_isSome_iff, htarget]
      simp only [Target.step, assignOne?_index_isSome_iff]
  | key name =>
      have hsingle : (Target.key name).isWildcard = false := rfl
      simp only [Target.step, assignOne?_key_isSome_iff]
      rw [Path.exists_addresses_iff, htarget]
      simp only [Target.exists_addresses_of_single hsingle]
      constructor
      · intro ⟨reached, hreached, members, hmembers⟩
        exact ⟨members, hmembers ▸ hreached⟩
      · intro ⟨members, hreached⟩
        exact ⟨_, hreached, members, rfl⟩
  | eachKey name =>
      have hwildcard : (Target.eachKey name).isWildcard = true := rfl
      simp only [Target.step, assignOne?_key_isSome_iff]
      rw [Path.exists_addresses_iff, htarget]
      simp only [Target.exists_addresses_of_wildcard hwildcard]
      constructor
      · intro ⟨reached, hreached, items, hitems, item, hmem, members, hmembers⟩
        exact ⟨items, members, hitems ▸ hreached, hmembers ▸ hmem⟩
      · intro ⟨items, members, hreached, hmem⟩
        exact ⟨_, hreached, items, rfl, _, hmem, members, rfl⟩

end Json

namespace Unmatched

/-- The strict and the lenient outcome of a change: the same document, or the path is
reported and the document is the one before. -/
inductive Agree (path : Path) (v : Json) : Except PathError Json → Except PathError Json → Prop
  | changed (w : Json) : Agree path v (.ok w) (.ok w)
  | unmatched : Agree path v (.error (.unmatched path.text)) (.ok v)

variable {path : Path} {v : Json} {result : Option Json} {copy : Json.Copy}

theorem settle_agree (h : copy.touched = 0 → copy.document = v) (path : Path) :
    Agree path v (raise.settle path copy) (skip.settle path copy) := by
  have hskip : skip.settle path copy = .ok copy.document := if_neg fun hraise => nomatch hraise.2
  rw [hskip]
  by_cases htouched : copy.touched = 0
  · have hraise : raise.settle path copy = .error (.unmatched path.text) :=
      if_pos ⟨htouched, rfl⟩
    rw [hraise, h htouched]
    exact .unmatched
  · have hraise : raise.settle path copy = .ok copy.document := if_neg fun hnone => htouched hnone.1
    rw [hraise]
    exact .changed copy.document

theorem settle_raise_eq_error_iff (h : Json.CopyOf v result copy) :
    raise.settle path copy = .error (.unmatched path.text) ↔ ¬ result.isSome := by
  cases result with
  | none => simp [h.settle_raise_of_none]
  | some w => simp [h.settle_raise_of_some]

end Unmatched

/-- A strict removal reports the path exactly when there is nothing to read, and a strict
setting exactly when there is nothing to set. Beyond that strict and lenient changes agree. -/
theorem Json.strict_agrees (v : Json) (path : Path) (x : Json) :
    (v.remove path .raise = .error (.unmatched path.text) ↔ v.get? path = none) ∧
      (v.update path x .raise = .error (.unmatched path.text) ↔ ¬ path.Settable v) ∧
      Unmatched.Agree path v (v.remove path .raise) (v.remove path .skip) ∧
      Unmatched.Agree path v (v.update path x .raise) (v.update path x .skip) := by
  have hdelete := delete_copyOf v path
  have hassign := assign_copyOf v path x
  refine ⟨?_, ?_, Unmatched.settle_agree hdelete.document_of_untouched path,
    Unmatched.settle_agree hassign.document_of_untouched path⟩
  · rw [remove, Unmatched.settle_raise_eq_error_iff hdelete, remove?_isSome_iff,
      Option.not_isSome_iff_eq_none]
  · rw [update, Unmatched.settle_raise_eq_error_iff hassign, assign?_isSome_iff]

end HttpScenario
