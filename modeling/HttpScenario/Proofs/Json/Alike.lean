import HttpScenario.Proofs.Json.PathLaws
import HttpScenario.Proofs.Json.Sameness
import Mathlib.Data.List.Forall2

namespace HttpScenario

/-! Documents that are equal apart from the order of members. No change of a document tells
them apart. -/

theorem rel_cases {α β : Type} {related : α → β → Prop} {a : Option α} {b : Option β}
    (h : Option.Rel related a b) :
    (a = none ∧ b = none) ∨ ∃ x y, a = some x ∧ b = some y ∧ related x y := by
  cases h with
  | none => exact .inl ⟨rfl, rfl⟩
  | some h => exact .inr ⟨_, _, rfl, rfl, h⟩

theorem forall₂_set {α β : Type} {related : α → β → Prop} {items : List α} {others : List β}
    {x : α} {y : β} (h : List.Forall₂ related items others) (hx : related x y) (i : Nat) :
    List.Forall₂ related (items.set i x) (others.set i y) := by
  induction h generalizing i with
  | nil => exact .nil
  | cons hitem hrest ih =>
      cases i with
      | zero => exact .cons hx hrest
      | succ i => exact .cons hitem (ih i)

theorem forall₂_getElem? {α β : Type} {related : α → β → Prop} {items : List α}
    {others : List β} (h : List.Forall₂ related items others) (i : Nat) :
    Option.Rel related items[i]? others[i]? := by
  induction h generalizing i with
  | nil => exact .none
  | cons hitem _ ih =>
      cases i with
      | zero => exact .some hitem
      | succ i => exact ih i

namespace Json

variable {u v w x y : Json} {f g : Json → Json}

structure Alike (v w : Json) : Prop where
  left : v.WellFormed
  right : w.WellFormed
  same : v.same w = true

namespace Alike

theorem refl (hv : v.WellFormed) : Alike v v := ⟨hv, hv, same_refl hv⟩

theorem symm (h : Alike v w) : Alike w v := ⟨h.right, h.left, same_symm h.left h.right h.same⟩

theorem trans (h : Alike u v) (h' : Alike v w) : Alike u w :=
  ⟨h.left, h'.right, same_trans h.same h'.same⟩

end Alike

theorem rel_symm {a b : Option Json} (h : Option.Rel Alike a b) : Option.Rel Alike b a := by
  cases h with
  | none => exact .none
  | some h => exact .some h.symm

theorem alike_arr_iff {items others : List Json} :
    Alike (.arr items) (.arr others) ↔ List.Forall₂ Alike items others := by
  constructor
  · rintro ⟨hv, hw, hsame⟩
    obtain ⟨hlength, hitems⟩ := List.forall₂_iff_get.mp (sameItems_iff.mp hsame)
    refine List.forall₂_iff_get.mpr ⟨hlength, fun i hi hi' => ?_⟩
    exact ⟨hv.items _ (List.get_mem _ _), hw.items _ (List.get_mem _ _), hitems i hi hi'⟩
  · intro h
    have hleft := (List.forall₂_and_left items others).mp (h.imp fun _ _ h => ⟨h.left, h⟩)
    have hright := (List.forall₂_and_left others items).mp
      (List.Forall₂.flip (h.imp fun _ _ h => ⟨h.right, h⟩))
    exact ⟨.arr hleft.1, .arr hright.1, sameItems_iff.mpr (h.imp fun _ _ h => h.same)⟩

theorem exists_alike_of_mem {members others : Members Json} (hdistinct : members.Distinct)
    (h : ∀ name, Option.Rel Alike (members.find? name) (others.find? name)) :
    ∀ member ∈ members, ∃ other, others.find? member.1 = some other ∧ Alike member.2 other := by
  intro member hmember
  have hrel := h member.1
  rw [Members.find?_of_mem hdistinct hmember] at hrel
  rcases rel_cases hrel with ⟨hnone, -⟩ | ⟨value, other, hvalue, hother, halike⟩
  · cases hnone
  · cases hvalue
    exact ⟨other, hother, halike⟩

theorem names_perm_of_rel {members others : Members Json} (hdistinct : members.Distinct)
    (hothers : others.Distinct)
    (h : ∀ name, Option.Rel Alike (members.find? name) (others.find? name)) :
    members.names.Perm others.names := by
  refine (List.perm_ext_iff_of_nodup hdistinct hothers).mpr fun name => ?_
  rcases rel_cases (h name) with ⟨hnone, hnone'⟩ | ⟨value, other, hvalue, hother, -⟩
  · exact iff_of_false (Members.find?_eq_none_iff.mp hnone)
      (Members.find?_eq_none_iff.mp hnone')
  · exact iff_of_true (Members.mem_names_of_find? hvalue) (Members.mem_names_of_find? hother)

theorem alike_obj_iff {members others : Members Json} :
    Alike (.obj members) (.obj others) ↔ members.Distinct ∧ others.Distinct ∧
      ∀ name, Option.Rel Alike (members.find? name) (others.find? name) := by
  constructor
  · intro h
    have found : ∀ {v w : Members Json}, Alike (.obj v) (.obj w) → ∀ {name value},
        v.find? name = some value → ∃ other, w.find? name = some other ∧ Alike value other := by
      intro v w h name value hfind
      obtain ⟨-, hmembers⟩ := same_obj_iff.mp h.same
      obtain ⟨other, hother, hsame⟩ := hmembers _ (Members.mem_of_find? hfind)
      exact ⟨other, hother, h.left.find? hfind, h.right.find? hother, hsame⟩
    refine ⟨h.left.distinct, h.right.distinct, fun name => ?_⟩
    cases hfind : members.find? name with
    | some value =>
        obtain ⟨other, hother, halike⟩ := found h hfind
        rw [hother]
        exact .some halike
    | none =>
        cases hother : others.find? name with
        | none => exact .none
        | some other =>
            obtain ⟨value, hvalue, -⟩ := found h.symm hother
            cases hfind.symm.trans hvalue
  · rintro ⟨hdistinct, hothers, h⟩
    have hlength : members.length = others.length := by
      simpa [Members.names] using (names_perm_of_rel hdistinct hothers h).length_eq
    have hleft := exists_alike_of_mem hdistinct h
    have hright := exists_alike_of_mem hothers fun name => rel_symm (h name)
    refine ⟨.obj hdistinct fun member hmember => ?_, .obj hothers fun other hother => ?_, ?_⟩
    · obtain ⟨_, -, halike⟩ := hleft member hmember
      exact halike.left
    · obtain ⟨_, -, halike⟩ := hright other hother
      exact halike.left
    · refine same_obj_iff.mpr ⟨hlength, fun member hmember => ?_⟩
      obtain ⟨other, hother, halike⟩ := hleft member hmember
      exact ⟨other, hother, halike.same⟩

theorem step?_of_scalar (h : v.isContainer = false) (step : Step) : v.step? step = none := by
  cases v with
  | arr items => cases h
  | obj members => cases h
  | _ => cases step <;> rfl

theorem replaceStep_of_scalar (h : v.isContainer = false) (step : Step) (x : Json) :
    v.replaceStep step x = v := by
  cases v with
  | arr items => cases h
  | obj members => cases h
  | _ => rfl

theorem mapItems_of_scalar (h : v.isContainer = false) (f : Json → Json) :
    v.mapItems f = v := by
  cases v with
  | arr items => cases h
  | _ => rfl

inductive AlikeKind : Json → Json → Prop where
  | scalar {v w : Json} (hv : v.isContainer = false) (hw : w.isContainer = false) :
      AlikeKind v w
  | arr {items others : List Json} (h : List.Forall₂ Alike items others) :
      AlikeKind (.arr items) (.arr others)
  | obj {members others : Members Json} (hdistinct : members.Distinct)
      (hothers : others.Distinct)
      (h : ∀ name, Option.Rel Alike (members.find? name) (others.find? name)) :
      AlikeKind (.obj members) (.obj others)

namespace Alike

theorem kind (h : Alike v w) : AlikeKind v w := by
  cases v with
  | arr items =>
      cases w with
      | arr others => exact .arr (alike_arr_iff.mp h)
      | _ => cases h.same
  | obj members =>
      cases w with
      | obj others =>
          obtain ⟨hdistinct, hothers, hfind⟩ := alike_obj_iff.mp h
          exact .obj hdistinct hothers hfind
      | _ => cases h.same
  | _ =>
      cases w with
      | arr others => cases h.same
      | obj others => cases h.same
      | _ => exact .scalar rfl rfl

theorem step? (h : Alike v w) (step : Step) : Option.Rel Alike (v.step? step) (w.step? step) := by
  cases h.kind with
  | scalar hv hw =>
      rw [step?_of_scalar hv, step?_of_scalar hw]
      exact .none
  | @arr items others hitems =>
      cases step with
      | key name => exact .none
      | index i => exact forall₂_getElem? hitems i
  | obj hdistinct hothers hfind =>
      cases step with
      | key name => exact hfind name
      | index i => exact .none

theorem replaceStep (h : Alike v w) (step : Step) (hx : Alike x y) :
    Alike (v.replaceStep step x) (w.replaceStep step y) := by
  cases h.kind with
  | scalar hv hw =>
      rw [replaceStep_of_scalar hv, replaceStep_of_scalar hw]
      exact h
  | arr hitems =>
      cases step with
      | key name => exact h
      | index i => exact alike_arr_iff.mpr (forall₂_set hitems hx i)
  | obj hdistinct hothers hfind =>
      cases step with
      | key name =>
          refine alike_obj_iff.mpr ⟨hdistinct.put name x, hothers.put name y, fun other => ?_⟩
          rw [Members.find?_put, Members.find?_put]
          split
          · exact .some hx
          · exact hfind other
      | index i => exact h

theorem mapItems (hf : ∀ {v w}, Alike v w → Alike (f v) (g w)) (h : Alike v w) :
    Alike (v.mapItems f) (w.mapItems g) := by
  cases h.kind with
  | scalar hv hw =>
      rw [mapItems_of_scalar hv, mapItems_of_scalar hw]
      exact h
  | arr hitems => exact alike_arr_iff.mpr (List.rel_map (fun _ _ hitem => hf hitem) hitems)
  | obj hdistinct hothers hfind => exact h

theorem setTarget (h : Alike v w) (target : Target) (hx : Alike x y) :
    Alike (v.setTarget target x) (w.setTarget target y) := by
  rw [Json.setTarget, Json.setTarget]
  split
  · exact mapItems (fun hitem => hitem.replaceStep target.step hx) h
  · exact h.replaceStep target.step hx

theorem modify (hf : ∀ {v w}, Alike v w → Alike (f v) (g w)) (h : Alike v w)
    (steps : List Step) : Alike (v.modify f steps) (w.modify g steps) := by
  induction steps generalizing v w with
  | nil => exact hf h
  | cons step steps ih =>
      rcases rel_cases (h.step? step) with ⟨hv, hw⟩ | ⟨child, other, hv, hw, hchild⟩
      · rw [modify_of_none hv, modify_of_none hw]
        exact h
      · rw [modify_of_some hv, modify_of_some hw]
        exact h.replaceStep step (ih hchild)

end Alike

namespace WellFormed

theorem step? {child : Json} {step : Step} (hv : v.WellFormed) (h : v.step? step = some child) :
    child.WellFormed := by
  have hrel := (Alike.refl hv).step? step
  rw [h] at hrel
  cases hrel with
  | some halike => exact halike.left

theorem replaceStep (hv : v.WellFormed) (step : Step) (hx : x.WellFormed) :
    (v.replaceStep step x).WellFormed :=
  ((Alike.refl hv).replaceStep step (Alike.refl hx)).left

end WellFormed

theorem modify_alike (hv : v.WellFormed) (h : ∀ {v : Json}, v.WellFormed → Alike (f v) (g v))
    (steps : List Step) : Alike (v.modify f steps) (v.modify g steps) := by
  induction steps generalizing v with
  | nil => exact h hv
  | cons step steps ih =>
      cases hchild : v.step? step with
      | none =>
          rw [modify_of_none hchild, modify_of_none hchild]
          exact .refl hv
      | some child =>
          rw [modify_of_some hchild, modify_of_some hchild]
          exact (Alike.refl hv).replaceStep step (ih (hv.step? hchild))

/-- A document with a value set at what a path addresses, if that is anything. -/
def assigned (v : Json) (path : Path) (x : Json) : Json := (v.assign? path x).getD v

theorem assigned_eq_modify (v : Json) (path : Path) (x : Json) :
    v.assigned path x = v.modify (·.setTarget path.target x) path.parents :=
  assign_eq_modify v path x

theorem Alike.assigned (h : Alike v w) (path : Path) (hx : Alike x y) :
    Alike (v.assigned path x) (w.assigned path y) := by
  rw [assigned_eq_modify, assigned_eq_modify]
  exact h.modify (fun hreached => hreached.setTarget path.target hx) path.parents

end Json

end HttpScenario
