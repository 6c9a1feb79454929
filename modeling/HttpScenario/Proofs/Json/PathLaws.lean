import HttpScenario.Proofs.Json.Assignment
import HttpScenario.Proofs.Json.Erasure

namespace HttpScenario

/-! What a path reads, sets and removes is one and the same: what was set is read, setting
what was read changes nothing, and neither a second setting nor a removal shows what was set
before. -/

namespace Json

variable {v w x y : Json} {step : Step} {path : Path}

theorem assignOne?_getD (x v : Json) (step : Step) :
    (Target.assignOne? x v step).getD v = v.replaceStep step x := by
  cases step with
  | key name => cases v <;> rfl
  | index i =>
      cases v with
      | arr items =>
          rw [Target.assignOne?]
          split
          · rfl
          · next hi => exact congrArg Json.arr (List.set_eq_of_length_le (Nat.le_of_not_lt hi)).symm
      | _ => rfl

theorem removeOne?_index_getD (items : List Json) (i : Nat) :
    (Target.removeOne? (.arr items) (.index i)).getD (.arr items) = .arr (items.eraseIdx i) := by
  rw [Target.removeOne?]
  split
  · rfl
  · next hi =>
      exact congrArg Json.arr (List.eraseIdx_of_length_le (Nat.le_of_not_lt hi)).symm

theorem drop_replaceStep_self (name : String) (v x : Json) :
    (v.replaceStep (.key name) x).drop name = v.drop name := by
  cases v with
  | obj members => exact congrArg Json.obj (Members.erase_put_self name x members)
  | _ => rfl

theorem removeOne?_replaceStep (v x : Json) (step : Step) :
    (Target.removeOne? (v.replaceStep step x) step).getD (v.replaceStep step x) =
      (Target.removeOne? v step).getD v := by
  cases step with
  | key name => rw [removeOne?_key_getD, removeOne?_key_getD, drop_replaceStep_self]
  | index i =>
      cases v with
      | arr items =>
          rw [replaceStep, removeOne?_index_getD, removeOne?_index_getD]
          exact congrArg Json.arr List.eraseIdx_set_eq
      | _ => rfl

/-- A document in which `x` stands wherever a target can be set. -/
def setTarget (v : Json) (target : Target) (x : Json) : Json :=
  if target.isWildcard then v.mapItems (·.replaceStep target.step x)
  else v.replaceStep target.step x

theorem change?_assignOne?_getD (v : Json) (target : Target) (x : Json) :
    (target.change? (Target.assignOne? x) v).getD v = v.setTarget target x := by
  rw [Target.change?_getD, setTarget]
  simp only [assignOne?_getD]

theorem setTarget_setTarget (v : Json) (target : Target) (x y : Json) :
    (v.setTarget target x).setTarget target y = v.setTarget target y := by
  rw [setTarget, setTarget, setTarget]
  cases target.isWildcard with
  | false => exact replaceStep_replaceStep v target.step x y
  | true =>
      simp only [if_true, mapItems_mapItems]
      simp only [replaceStep_replaceStep]

theorem setTarget_eq_self {target : Target} (h : target.isWildcard = false)
    (hstep : v.step? target.step = some x) : v.setTarget target x = v := by
  rw [setTarget, h]
  exact replaceStep_eq_self hstep

theorem change?_removeOne?_setTarget (v : Json) (target : Target) (x : Json) :
    (target.change? Target.removeOne? (v.setTarget target x)).getD (v.setTarget target x) =
      (target.change? Target.removeOne? v).getD v := by
  rw [Target.change?_getD, Target.change?_getD, setTarget]
  cases target.isWildcard with
  | false => exact removeOne?_replaceStep v x target.step
  | true =>
      simp only [if_true, mapItems_mapItems]
      simp only [removeOne?_replaceStep]

theorem assign_eq_modify (v : Json) (path : Path) (x : Json) :
    (v.assign? path x).getD v = v.modify (·.setTarget path.target x) path.parents := by
  rw [assign?, alter?_getD]
  simp only [change?_assignOne?_getD]

theorem get?_of_assign? (hsingle : path.target.isWildcard = false)
    (h : v.assign? path x = some w) : w.get? path = some x := by
  obtain ⟨before, after, -, hafter, hspot⟩ := descend?_of_alter? h
  rw [Target.change?_of_single hsingle] at hafter
  obtain ⟨hset, -⟩ := Target.assignOne?_eq_some hafter
  rw [get?, hspot, Option.bind_some, Target.select?_of_single hsingle]
  exact hset

theorem assign_of_get? (hsingle : path.target.isWildcard = false)
    (h : v.get? path = some y) : (v.assign? path y).getD v = v := by
  rw [assign_eq_modify]
  apply modify_eq_self
  intro reached hreached
  rw [get?, hreached, Option.bind_some, Target.select?_of_single hsingle] at h
  exact setTarget_eq_self hsingle h

theorem assign_assign (v : Json) (path : Path) (x y : Json) :
    (((v.assign? path x).getD v).assign? path y).getD ((v.assign? path x).getD v) =
      (v.assign? path y).getD v := by
  rw [assign_eq_modify, assign_eq_modify, assign_eq_modify, modify_modify]
  simp only [setTarget_setTarget]

theorem without_assign (v : Json) (path : Path) (x : Json) :
    ((v.assign? path x).getD v).without path = v.without path := by
  rw [assign_eq_modify, without, without, remove?, remove?, alter?_getD, alter?_getD,
    modify_modify]
  simp only [change?_removeOne?_setTarget]

theorem exists_assign?_of_update_raise
    (h : v.update path x .raise ≠ .error (.unmatched path.text)) :
    ∃ w, v.assign? path x = some w := by
  cases hassign : v.assign? path x with
  | none =>
      have hcopy := assign_copyOf v path x
      rw [hassign] at hcopy
      exact absurd hcopy.settle_raise_of_none h
  | some w => exact ⟨w, rfl⟩

/-- What a path that is no wildcard sets is what it reads afterwards, if there is anything
to set, which a strict setting tells; setting what it reads changes nothing. With a wildcard
or without, setting a second time and removing are as if nothing had been set before. -/
theorem path_laws (v : Json) (path : Path) (x y : Json) :
    (path.target.isWildcard = false →
      (v.update path x .raise ≠ .error (.unmatched path.text) →
          ∃ w, v.update path x .skip = .ok w ∧ w.get? path = some x) ∧
        (v.get? path = some y → v.update path y .skip = .ok v)) ∧
      ∃ w, v.update path x .skip = .ok w ∧
        w.update path y .skip = v.update path y .skip ∧
        w.remove path .skip = v.remove path .skip := by
  refine ⟨fun hsingle => ⟨fun htouched => ?_, fun hget => ?_⟩, _, update_skip v path x, ?_, ?_⟩
  · obtain ⟨w, hassign⟩ := exists_assign?_of_update_raise htouched
    refine ⟨w, ?_, get?_of_assign? hsingle hassign⟩
    rw [update_skip, hassign]
    rfl
  · rw [update_skip, assign_of_get? hsingle hget]
  · rw [update_skip, update_skip, assign_assign]
  · rw [remove_skip, remove_skip, without_assign]

def itemOrder : Json := .obj [("items", .arr [.obj [("id", .ofNat 1)]])]

def itemId : Path := ⟨"items.[0].id", [.key "items", .index 0], .key "id"⟩

theorem path_laws_item :
    itemId.target.isWildcard = false ∧
      itemOrder.update itemId (.str "a") .raise ≠ .error (.unmatched itemId.text) ∧
      itemOrder.get? itemId = some (.ofNat 1) ∧
      (∃ w, itemOrder.update itemId (.str "a") .skip = .ok w ∧ w.get? itemId = some (.str "a") ∧
        w.update itemId (.ofNat 1) .skip = .ok itemOrder) ∧
      itemOrder.update itemId (.ofNat 1) .skip = .ok itemOrder := by
  have htouched : itemOrder.update itemId (.str "a") .raise ≠
      .error (.unmatched itemId.text) := nofun
  have hget : itemOrder.get? itemId = some (.ofNat 1) := rfl
  obtain ⟨hsingle, w, hw, hagain, -⟩ := path_laws itemOrder itemId (.str "a") (.ofNat 1)
  obtain ⟨hset, hkept⟩ := hsingle rfl
  obtain ⟨w', hw', hread⟩ := hset htouched
  cases hw.symm.trans hw'
  exact ⟨rfl, htouched, hget, ⟨w, hw, hread, hagain.trans (hkept hget)⟩, hkept hget⟩

end Json

end HttpScenario
