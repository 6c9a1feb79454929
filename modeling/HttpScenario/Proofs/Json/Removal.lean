import HttpScenario.Proofs.Json.Copies
import HttpScenario.Proofs.Json.ReadBack

namespace HttpScenario.Json

/-! Removal leaves documents well-formed, no deeper than before, and made of
numbers that were there before. -/

/-- What is left of a document when parts of it are left out. -/
structure Sheds (v w : Json) : Prop where
  wellFormed : v.WellFormed → w.WellFormed
  depth_le : w.depth ≤ v.depth
  readsBack : v.ReadsBack → w.ReadsBack

namespace Sheds

theorem refl (v : Json) : Sheds v v := ⟨id, Nat.le_refl _, id⟩

theorem trans {u v w : Json} (huv : Sheds u v) (hvw : Sheds v w) : Sheds u w where
  wellFormed h := hvw.wellFormed (huv.wellFormed h)
  depth_le := Nat.le_trans hvw.depth_le huv.depth_le
  readsBack h := hvw.readsBack (huv.readsBack h)

theorem arr {items others : List Json}
    (h : ∀ other ∈ others, ∃ item ∈ items, Sheds item other) :
    Sheds (.arr items) (.arr others) where
  wellFormed hitems := by
    refine .arr fun other hother => ?_
    obtain ⟨item, hitem, hsheds⟩ := h other hother
    exact hsheds.wellFormed (hitems.items item hitem)
  depth_le := by
    have hitems := depthItems_le.mp (Nat.le_refl (depthItems items))
    refine Nat.succ_le_succ (depthItems_le.mpr fun other hother => ?_)
    obtain ⟨item, hitem, hsheds⟩ := h other hother
    exact Nat.le_trans hsheds.depth_le (hitems item hitem)
  readsBack hitems := by
    refine readsBack_arr.mpr fun other hother => ?_
    obtain ⟨item, hitem, hsheds⟩ := h other hother
    exact hsheds.readsBack (readsBack_arr.mp hitems item hitem)

theorem obj {members others : Members Json} (hdistinct : members.Distinct → others.Distinct)
    (h : ∀ other ∈ others, ∃ member ∈ members, Sheds member.2 other.2) :
    Sheds (.obj members) (.obj others) where
  wellFormed hmembers := by
    refine .obj (hdistinct hmembers.distinct) fun other hother => ?_
    obtain ⟨member, hmember, hsheds⟩ := h other hother
    exact hsheds.wellFormed (hmembers.members member hmember)
  depth_le := by
    have hmembers := depthMembers_le.mp (Nat.le_refl (depthMembers members))
    refine Nat.succ_le_succ (depthMembers_le.mpr fun other hother => ?_)
    obtain ⟨member, hmember, hsheds⟩ := h other hother
    exact Nat.le_trans hsheds.depth_le (hmembers member hmember)
  readsBack hmembers := by
    refine readsBack_obj.mpr fun other hother => ?_
    obtain ⟨member, hmember, hsheds⟩ := h other hother
    exact hsheds.readsBack (readsBack_obj.mp hmembers member hmember)

theorem replaceStep {v child changed : Json} {step : Step} (hchild : v.step? step = some child)
    (h : Sheds child changed) : Sheds v (v.replaceStep step changed) := by
  cases step with
  | key name =>
      cases v with
      | obj members =>
          refine .obj (fun hdistinct => hdistinct.put name changed) fun other hother => ?_
          rcases Members.eq_or_mem_of_mem_put hother with rfl | hmem
          · exact ⟨(name, child), Members.mem_of_find? hchild, h⟩
          · exact ⟨other, hmem, refl other.2⟩
      | _ => cases hchild
  | index i =>
      cases v with
      | arr items =>
          refine .arr fun other hother => ?_
          rcases List.mem_or_eq_of_mem_set hother with hmem | rfl
          · exact ⟨other, hmem, refl other⟩
          · exact ⟨child, List.mem_of_getElem? hchild, h⟩
      | _ => cases hchild

theorem removeOne? {v w : Json} {step : Step} (h : Target.removeOne? v step = some w) :
    Sheds v w := by
  cases step with
  | key name =>
      cases v with
      | obj members =>
          simp only [Target.removeOne?, Option.ite_none_right_eq_some] at h
          rw [← Option.some.inj h.2]
          exact .obj (fun hdistinct => hdistinct.erase name) fun other hother =>
            ⟨other, Members.mem_of_mem_erase hother, refl other.2⟩
      | _ => cases h
  | index i =>
      cases v with
      | arr items =>
          simp only [Target.removeOne?, Option.ite_none_right_eq_some] at h
          rw [← Option.some.inj h.2]
          exact .arr fun other hother => ⟨other, List.mem_of_mem_eraseIdx hother, refl other⟩
      | _ => cases h

theorem changeEach? {change : Json → Option Json} {v w : Json}
    (hchange : ∀ item changed, change item = some changed → Sheds item changed)
    (h : Target.changeEach? change v = some w) : Sheds v w := by
  cases v with
  | arr items =>
      simp only [Target.changeEach?, Option.ite_none_right_eq_some] at h
      rw [← Option.some.inj h.2]
      refine .arr fun other hother => ?_
      obtain ⟨item, hitem, rfl⟩ := List.mem_map.mp hother
      refine ⟨item, hitem, ?_⟩
      cases hchanged : change item with
      | none => exact refl item
      | some changed => exact hchange item changed hchanged
  | _ => cases h

end Sheds

theorem remove?_induction {motive : Json → Json → Prop}
    (one : ∀ {step v w}, Target.removeOne? v step = some w → motive v w)
    (each : ∀ {change : Json → Option Json} {v w},
      (∀ item changed, change item = some changed → motive item changed) →
        Target.changeEach? change v = some w → motive v w)
    (below : ∀ {step v child changed}, v.step? step = some child → motive child changed →
      motive v (v.replaceStep step changed))
    {path : Path} {v w : Json} (h : v.remove? path = some w) : motive v w := by
  obtain ⟨text, parents, target⟩ := path
  have htarget : ∀ v w, target.change? Target.removeOne? v = some w → motive v w := by
    intro v w h
    cases target with
    | key name => exact one h
    | index i => exact one h
    | eachKey name => exact each (fun _ _ => one) h
    | eachIndex i => exact each (fun _ _ => one) h
  have halter : v.alter? (target.change? Target.removeOne?) parents = some w := h
  clear h
  induction parents generalizing v w with
  | nil => exact htarget v w halter
  | cons step parents ih =>
      obtain ⟨child, hchild, halter⟩ := Option.bind_eq_some_iff.mp halter
      obtain ⟨changed, hchanged, halter⟩ := Option.bind_eq_some_iff.mp halter
      cases halter
      exact below hchild (ih hchanged)

theorem Sheds.remove? {v w : Json} {path : Path} (h : v.remove? path = some w) : Sheds v w :=
  remove?_induction Sheds.removeOne? Sheds.changeEach? Sheds.replaceStep h

def without (v : Json) (path : Path) : Json := (v.remove? path).getD v

/-- A document without what paths address, one path after the other. -/
def withoutAll (v : Json) (paths : List Path) : Json := paths.foldl without v

@[simp] theorem withoutAll_nil (v : Json) : v.withoutAll [] = v := rfl

@[simp] theorem withoutAll_cons (v : Json) (path : Path) (paths : List Path) :
    v.withoutAll (path :: paths) = (v.without path).withoutAll paths := rfl

theorem without_sheds (v : Json) (path : Path) : Sheds v (v.without path) := by
  rw [without]
  cases h : v.remove? path with
  | none => exact .refl v
  | some w => exact .remove? h

theorem withoutAll_sheds (v : Json) (paths : List Path) : Sheds v (v.withoutAll paths) := by
  induction paths generalizing v with
  | nil => exact .refl v
  | cons path paths ih => exact (without_sheds v path).trans (ih (v.without path))

theorem remove_skip (v : Json) (path : Path) : v.remove path .skip = .ok (v.without path) := by
  rw [Json.remove, (delete_copyOf v path).settle_skip]
  rfl

end HttpScenario.Json
