import HttpScenario.Proofs.Json.Alike
import HttpScenario.Proofs.Json.Removal
import Mathlib.Algebra.GroupWithZero.Nat

namespace HttpScenario.Json

/-! The number of values in a document. Equal documents hold equally many values, and a removal
leaves fewer of them. -/

mutual

def size : Json → Nat
  | .arr items => sizeItems items + 1
  | .obj members => sizeMembers members + 1
  | _ => 1

def sizeItems : List Json → Nat
  | [] => 0
  | item :: items => item.size + sizeItems items

def sizeMembers : List (String × Json) → Nat
  | [] => 0
  | (_, value) :: rest => value.size + sizeMembers rest

end

variable {v w child x : Json} {items others : List Json} {members : Members Json}

theorem size_pos (v : Json) : 0 < v.size := by
  cases v with
  | arr items => exact Nat.succ_pos _
  | obj members => exact Nat.succ_pos _
  | _ => exact Nat.one_pos

theorem size_of_scalar (h : v.isContainer = false) : v.size = 1 := by
  cases v with
  | arr items => cases h
  | obj members => cases h
  | _ => rfl

theorem sizeItems_set_lt {i : Nat} (hchild : items[i]? = some child) (h : x.size < child.size) :
    sizeItems (items.set i x) < sizeItems items := by
  induction items generalizing i with
  | nil => cases hchild
  | cons item items ih =>
      cases i with
      | zero =>
          cases hchild
          exact Nat.add_lt_add_right h _
      | succ i => exact Nat.add_lt_add_left (ih hchild) _

theorem sizeItems_eraseIdx_lt {i : Nat} (h : i < items.length) :
    sizeItems (items.eraseIdx i) < sizeItems items := by
  induction items generalizing i with
  | nil => cases h
  | cons item items ih =>
      cases i with
      | zero => exact Nat.lt_add_of_pos_left item.size_pos
      | succ i => exact Nat.add_lt_add_left (ih (Nat.lt_of_succ_lt_succ h)) _

theorem sizeItems_map_le {f : Json → Json} (h : ∀ item, (f item).size ≤ item.size) :
    sizeItems (items.map f) ≤ sizeItems items := by
  induction items with
  | nil => exact Nat.le_refl _
  | cons item items ih => exact Nat.add_le_add (h item) ih

theorem sizeItems_map_lt {f : Json → Json} (h : ∀ item, (f item).size ≤ item.size)
    (hsome : ∃ item ∈ items, (f item).size < item.size) :
    sizeItems (items.map f) < sizeItems items := by
  induction items with
  | nil =>
      obtain ⟨item, hitem, -⟩ := hsome
      cases hitem
  | cons first items ih =>
      obtain ⟨item, hitem, hlt⟩ := hsome
      rcases List.mem_cons.mp hitem with rfl | hitem
      · exact Nat.add_lt_add_of_lt_of_le hlt (sizeItems_map_le h)
      · exact Nat.add_lt_add_of_le_of_lt (h first) (ih ⟨item, hitem, hlt⟩)

theorem sizeMembers_put_lt {name : String} (hchild : members.find? name = some child)
    (h : x.size < child.size) : sizeMembers (members.put name x) < sizeMembers members := by
  induction members with
  | nil => cases hchild
  | cons member rest ih =>
      rw [Members.find?] at hchild
      rw [Members.put]
      split at hchild
      · next hname =>
          cases hchild
          rw [if_pos hname]
          exact Nat.add_lt_add_right h _
      · next hname =>
          rw [if_neg hname]
          exact Nat.add_lt_add_left (ih hchild) _

theorem sizeMembers_erase_le (name : String) (members : Members Json) :
    sizeMembers (members.erase name) ≤ sizeMembers members := by
  induction members with
  | nil => exact Nat.le_refl _
  | cons member rest ih =>
      by_cases h : member.1 = name
      · rw [Members.erase, List.filter_cons_of_neg (by simp [h])]
        exact Nat.le_trans ih (Nat.le_add_left _ _)
      · rw [Members.erase, List.filter_cons_of_pos (by simp [h])]
        exact Nat.add_le_add_left ih _

theorem sizeMembers_erase_lt {name : String} (h : (members.find? name).isSome) :
    sizeMembers (members.erase name) < sizeMembers members := by
  induction members with
  | nil => cases h
  | cons member rest ih =>
      rw [Members.find?] at h
      split at h
      · next hname =>
          rw [Members.erase, List.filter_cons_of_neg (by simp [hname])]
          exact Nat.lt_of_le_of_lt (sizeMembers_erase_le name rest)
            (Nat.lt_add_of_pos_left member.2.size_pos)
      · next hname =>
          rw [Members.erase, List.filter_cons_of_pos (by simp [hname])]
          exact Nat.add_lt_add_left (ih h) _

theorem size_replaceStep_lt {step : Step} (hchild : v.step? step = some child)
    (h : x.size < child.size) : (v.replaceStep step x).size < v.size := by
  cases step with
  | key name =>
      cases v with
      | obj members => exact Nat.succ_lt_succ (sizeMembers_put_lt hchild h)
      | _ => cases hchild
  | index i =>
      cases v with
      | arr items => exact Nat.succ_lt_succ (sizeItems_set_lt hchild h)
      | _ => cases hchild

theorem size_removeOne?_lt {step : Step} (h : Target.removeOne? v step = some w) :
    w.size < v.size := by
  cases step with
  | key name =>
      cases v with
      | obj members =>
          obtain ⟨hthere, h⟩ := Option.ite_none_right_eq_some.mp h
          cases h
          exact Nat.succ_lt_succ (sizeMembers_erase_lt hthere)
      | _ => cases h
  | index i =>
      cases v with
      | arr items =>
          obtain ⟨hthere, h⟩ := Option.ite_none_right_eq_some.mp h
          cases h
          exact Nat.succ_lt_succ (sizeItems_eraseIdx_lt hthere)
      | _ => cases h

theorem size_changeEach?_lt {change : Json → Option Json}
    (hchange : ∀ item changed, change item = some changed → changed.size < item.size)
    (h : Target.changeEach? change v = some w) : w.size < v.size := by
  cases v with
  | arr items =>
      obtain ⟨hany, h⟩ := Option.ite_none_right_eq_some.mp h
      cases h
      refine Nat.succ_lt_succ (sizeItems_map_lt (fun item => ?_) ?_)
      · cases hitem : change item with
        | none => exact Nat.le_refl _
        | some changed => exact Nat.le_of_lt (hchange item changed hitem)
      · obtain ⟨item, hmem, hsome⟩ := List.any_eq_true.mp hany
        obtain ⟨changed, hchanged⟩ := Option.isSome_iff_exists.mp hsome
        refine ⟨item, hmem, ?_⟩
        rw [hchanged]
        exact hchange item changed hchanged
  | _ => cases h

theorem size_remove?_lt {path : Path} (h : v.remove? path = some w) : w.size < v.size :=
  remove?_induction (motive := fun v w => w.size < v.size) size_removeOne?_lt
    size_changeEach?_lt size_replaceStep_lt h

section Removal

variable {path : Path} {paths : List Path}

theorem remove?_of_scalar (h : v.isContainer = false) (path : Path) : v.remove? path = none := by
  cases hremove : v.remove? path with
  | none => rfl
  | some w =>
      have hlt := size_remove?_lt hremove
      rw [size_of_scalar h] at hlt
      exact absurd hlt (Nat.not_lt_of_le w.size_pos)

theorem without_of_none (h : v.remove? path = none) : v.without path = v := by
  rw [without, h]
  rfl

theorem size_without_le (v : Json) (path : Path) : (v.without path).size ≤ v.size := by
  cases h : v.remove? path with
  | none => exact Nat.le_of_eq (congrArg size (without_of_none h))
  | some w =>
      rw [without, h]
      exact Nat.le_of_lt (size_remove?_lt h)

theorem remove?_eq_none_of_size (h : v.size ≤ (v.without path).size) :
    v.remove? path = none := by
  cases hremove : v.remove? path with
  | none => rfl
  | some w =>
      rw [without, hremove] at h
      exact absurd (size_remove?_lt hremove) (Nat.not_lt_of_le h)

theorem size_withoutAll_le (v : Json) (paths : List Path) :
    (v.withoutAll paths).size ≤ v.size := by
  induction paths generalizing v with
  | nil => exact Nat.le_refl _
  | cons path paths ih => exact Nat.le_trans (ih (v.without path)) (size_without_le v path)

theorem withoutAll_of_none (h : ∀ path ∈ paths, v.remove? path = none) :
    v.withoutAll paths = v := by
  induction paths with
  | nil => rfl
  | cons path paths ih =>
      obtain ⟨hpath, hpaths⟩ := List.forall_mem_cons.mp h
      rw [withoutAll_cons, without_of_none hpath, ih hpaths]

theorem remove?_eq_none_of_size_withoutAll (h : v.size ≤ (v.withoutAll paths).size) :
    ∀ path ∈ paths, v.remove? path = none := by
  induction paths generalizing v with
  | nil => exact List.forall_mem_nil _
  | cons path paths ih =>
      have hrest := size_withoutAll_le (v.without path) paths
      have hpath : v.remove? path = none := remove?_eq_none_of_size (Nat.le_trans h hrest)
      rw [withoutAll_cons, without_of_none hpath] at h
      exact List.forall_mem_cons.mpr ⟨hpath, ih h⟩

theorem withoutAll_eq_self_iff :
    v.withoutAll paths = v ↔ ∀ path ∈ paths, v.remove? path = none := by
  constructor
  · intro h
    apply remove?_eq_none_of_size_withoutAll
    rw [h]
  · exact withoutAll_of_none

end Removal

theorem sizeItems_eq (h : List.Forall₂ (fun item other => size item = size other) items others) :
    sizeItems items = sizeItems others := by
  induction h with
  | nil => rfl
  | cons hitem _ ih => rw [sizeItems, sizeItems, hitem, ih]

def sizeAt (members : Members Json) (name : String) : Nat :=
  ((members.find? name).map size).getD 0

theorem sizeMembers_eq_sum (hdistinct : members.Distinct) :
    sizeMembers members = (members.names.map (sizeAt members)).sum := by
  have hmembers : members.names.map (sizeAt members) = members.map (·.2.size) := by
    rw [Members.names, List.map_map]
    apply List.map_congr_left
    intro member hmember
    have hfind : members.find? member.1 = some member.2 := Members.find?_of_mem hdistinct hmember
    simp only [Function.comp_apply, sizeAt, hfind]
    rfl
  rw [hmembers]
  clear hmembers hdistinct
  induction members with
  | nil => rfl
  | cons member rest ih => rw [sizeMembers, ih, List.map_cons, List.sum_cons]

theorem Alike.size_eq (h : Alike v w) : v.size = w.size := by
  induction v generalizing w with
  | arr items ih =>
      cases h.kind with
      | scalar hv => cases hv
      | arr hitems =>
          have hboth := (List.forall₂_and_left _ _).mpr ⟨fun _ hitem => hitem, hitems⟩
          exact congrArg (· + 1)
            (sizeItems_eq (hboth.imp fun _ _ ⟨hitem, halike⟩ => ih _ hitem halike))
  | obj members ih =>
      cases h.kind with
      | scalar hv => cases hv
      | @obj _ others hdistinct hothers hfind =>
          have hsizes : sizeAt members = sizeAt others := by
            funext name
            rw [sizeAt, sizeAt]
            rcases rel_cases (hfind name) with
              ⟨hnone, hnone'⟩ | ⟨value, other, hvalue, hother, halike⟩
            · rw [hnone, hnone']
            · rw [hvalue, hother, Option.map_some, Option.map_some,
                ih _ (Members.mem_of_find? hvalue) halike]
          refine congrArg (· + 1) ?_
          rw [sizeMembers_eq_sum hdistinct, sizeMembers_eq_sum hothers, hsizes]
          exact ((names_perm_of_rel hdistinct hothers hfind).map _).sum_nat
  | _ =>
      cases h.kind with
      | scalar hv hw => rw [size_of_scalar hv, size_of_scalar hw]

theorem same_withoutAll_iff (hv : v.WellFormed) {paths : List Path} :
    (v.withoutAll paths).same v = true ↔ v.withoutAll paths = v := by
  constructor
  · intro hsame
    have halike : Alike (v.withoutAll paths) v :=
      ⟨(withoutAll_sheds v paths).wellFormed hv, hv, hsame⟩
    exact withoutAll_of_none (remove?_eq_none_of_size_withoutAll (Nat.le_of_eq halike.size_eq.symm))
  · intro heq
    rw [heq]
    exact same_refl hv

end HttpScenario.Json
