import HttpScenario.Proofs.Json.Place

namespace HttpScenario

namespace Target

def assignOne? (x : Json) (v : Json) (step : Step) : Option Json :=
  match v, step with
  | .obj members, .key name => some (.obj (Members.put name x members))
  | .arr items, .index i => if i < items.length then some (.arr (items.set i x)) else none
  | _, _ => none

def removeOne? (v : Json) (step : Step) : Option Json :=
  match v, step with
  | .obj members, .key name =>
      if (Members.find? name members).isSome then some (.obj (Members.erase name members))
      else none
  | .arr items, .index i => if i < items.length then some (.arr (items.eraseIdx i)) else none
  | _, _ => none

def changeEach? (change : Json → Option Json) (v : Json) : Option Json :=
  match v with
  | .arr items =>
      if items.any fun item => (change item).isSome then
        some (.arr (items.map fun item => (change item).getD item))
      else none
  | _ => none

def change? (one : Json → Step → Option Json) (v : Json) : Target → Option Json
  | .key name => one v (.key name)
  | .index i => one v (.index i)
  | .eachKey name => changeEach? (one · (.key name)) v
  | .eachIndex i => changeEach? (one · (.index i)) v

end Target

namespace Json

/-- Sets what a path addresses; nothing when that is nothing. -/
def assign? (v : Json) (path : Path) (x : Json) : Option Json :=
  v.alter? (path.target.change? (Target.assignOne? x)) path.parents

/-- Removes what a path addresses; nothing when that is nothing. -/
def remove? (v : Json) (path : Path) : Option Json :=
  v.alter? (path.target.change? Target.removeOne?) path.parents

/-- A copy of `v` after a change that may be none. -/
inductive CopyOf (v : Json) : Option Json → Copy → Prop where
  | unchanged : CopyOf v none ⟨v, 0⟩
  | changed (w : Json) (n : Nat) : CopyOf v (some w) ⟨w, n + 1⟩

namespace CopyOf

variable {v : Json} {result : Option Json} {copy : Copy} {path : Path}

theorem document_eq (h : CopyOf v result copy) : copy.document = result.getD v := by
  cases h <;> rfl

theorem touched_eq_zero_iff (h : CopyOf v result copy) : copy.touched = 0 ↔ result = none := by
  cases h with
  | unchanged => exact ⟨fun _ => rfl, fun _ => rfl⟩
  | changed w n => exact ⟨nofun, nofun⟩

theorem of_touched (hdocument : copy.document = result.getD v)
    (htouched : copy.touched = 0 ↔ result = none) : CopyOf v result copy := by
  obtain ⟨document, touched⟩ := copy
  cases hdocument
  cases result with
  | none =>
      cases htouched.mpr rfl
      exact .unchanged
  | some w =>
      cases touched with
      | zero => cases htouched.mp rfl
      | succ n => exact .changed w n

theorem document_of_untouched (h : CopyOf v result copy) (htouched : copy.touched = 0) :
    copy.document = v := by
  rw [h.document_eq, h.touched_eq_zero_iff.mp htouched]
  rfl

theorem replaceStep {child : Json} {step : Step} (hchild : v.step? step = some child)
    (h : CopyOf child result copy) :
    CopyOf v (result.map (v.replaceStep step))
      ⟨v.replaceStep step copy.document, copy.touched⟩ := by
  cases h with
  | unchanged =>
      rw [replaceStep_eq_self hchild]
      exact .unchanged
  | changed w n => exact .changed _ n

theorem settle_skip (h : CopyOf v result copy) :
    Unmatched.skip.settle path copy = .ok (result.getD v) := by
  rw [Unmatched.settle, if_neg (fun hraise => nomatch hraise.2), h.document_eq]

theorem settle_raise_of_none (h : CopyOf v none copy) :
    Unmatched.raise.settle path copy = .error (.unmatched path.text) := by
  cases h
  rfl

theorem settle_raise_of_some {w : Json} (h : CopyOf v (some w) copy) :
    Unmatched.raise.settle path copy = .ok w := by
  cases h
  rfl

end CopyOf

theorem assignOne_copyOf (x v : Json) (step : Step) :
    CopyOf v (Target.assignOne? x v step) (Target.assignOne x v step) := by
  cases step with
  | key name =>
      cases v with
      | obj members => exact .changed _ 0
      | _ => exact .unchanged
  | index i =>
      cases v with
      | arr items =>
          rw [Target.assignOne?, Target.assignOne]
          split
          · exact .changed _ 0
          · exact .unchanged
      | _ => exact .unchanged

theorem deleteOne_copyOf (v : Json) (step : Step) :
    CopyOf v (Target.removeOne? v step) (Target.deleteOne v step) := by
  cases step with
  | key name =>
      cases v with
      | obj members =>
          rw [Target.removeOne?, Target.deleteOne]
          split
          · exact .changed _ 0
          · next hnone =>
              rw [Option.not_isSome_iff_eq_none, Members.find?_eq_none_iff] at hnone
              rw [Members.erase_eq_self hnone]
              exact .unchanged
      | _ => exact .unchanged
  | index i =>
      cases v with
      | arr items =>
          rw [Target.removeOne?, Target.deleteOne]
          split
          · exact .changed _ 0
          · exact .unchanged
      | _ => exact .unchanged

section Change

variable {change? : Json → Option Json} {change : Json → Copy}

theorem touchedIn_eq_zero_iff (h : ∀ item, CopyOf item (change? item) (change item))
    (items : List Json) :
    Target.touchedIn (items.map change) = 0 ↔ ∀ item ∈ items, change? item = none := by
  induction items with
  | nil => exact ⟨fun _ => List.forall_mem_nil _, fun _ => rfl⟩
  | cons item items ih =>
      rw [List.map_cons, Target.touchedIn, Nat.add_eq_zero_iff, (h item).touched_eq_zero_iff, ih,
        List.forall_mem_cons]

theorem changeEach_copyOf (h : ∀ item, CopyOf item (change? item) (change item)) (v : Json) :
    CopyOf v (Target.changeEach? change? v) (Target.changeEach change v) := by
  cases v with
  | arr items =>
      have hdocuments : (items.map change).map Copy.document =
          items.map fun item => (change? item).getD item := by
        rw [List.map_map]
        exact List.map_congr_left fun item _ => (h item).document_eq
      have htouched := touchedIn_eq_zero_iff h items
      rw [Target.changeEach?, Target.changeEach, hdocuments]
      split
      · next hany =>
          obtain ⟨item, hitem, hsome⟩ := List.any_eq_true.mp hany
          refine .of_touched rfl ⟨fun hzero => ?_, fun h => absurd h (Option.some_ne_none _)⟩
          rw [htouched.mp hzero item hitem] at hsome
          cases hsome
      · next hany =>
          have hnone : ∀ item ∈ items, change? item = none := by
            simpa using hany
          have hsame : (items.map fun item => (change? item).getD item) = items := by
            rw [List.map_congr_left (g := id) fun item hitem => by rw [hnone item hitem]; rfl,
              List.map_id]
          rw [hsame]
          exact .of_touched rfl ⟨fun _ => rfl, fun _ => htouched.mpr hnone⟩
  | _ => exact .unchanged

theorem changeAt_copyOf (h : ∀ v, CopyOf v (change? v) (change v)) (v : Json)
    (steps : List Step) : CopyOf v (v.alter? change? steps) (v.changeAt change steps) := by
  induction steps generalizing v with
  | nil => exact h v
  | cons step steps ih =>
      rw [changeAt]
      cases hchild : v.step? step with
      | none =>
          rw [alter?_of_none hchild]
          exact .unchanged
      | some child =>
          rw [alter?_of_some hchild]
          exact (ih child).replaceStep hchild

end Change

theorem change_copyOf {one? : Json → Step → Option Json} {one : Json → Step → Copy}
    (h : ∀ v step, CopyOf v (one? v step) (one v step)) (target : Target) (v : Json) :
    CopyOf v (target.change? one? v) (target.change one v) := by
  cases target with
  | key name => exact h v _
  | index i => exact h v _
  | eachKey name => exact changeEach_copyOf (fun item => h item _) v
  | eachIndex i => exact changeEach_copyOf (fun item => h item _) v

theorem assign_copyOf (v : Json) (path : Path) (x : Json) :
    CopyOf v (v.assign? path x) (v.assign path x) :=
  changeAt_copyOf (change_copyOf (assignOne_copyOf x) path.target) v path.parents

theorem delete_copyOf (v : Json) (path : Path) : CopyOf v (v.remove? path) (v.delete path) :=
  changeAt_copyOf (change_copyOf deleteOne_copyOf path.target) v path.parents

end Json

end HttpScenario
