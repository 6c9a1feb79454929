import HttpScenario.Proofs.Json.PathLaws

namespace HttpScenario

/-! Members that are removed by their names are removed in any order, and whatever was set
there before is gone with them. -/

namespace Json

variable {v child : Json} {step : Step} {name other : String} {g : Json → Json}

theorem drop_drop_self (name : String) (v : Json) : (v.drop name).drop name = v.drop name := by
  cases v with
  | obj members => exact congrArg Json.obj (Members.erase_erase_self name members)
  | _ => rfl

theorem drop_comm (name other : String) (v : Json) :
    (v.drop name).drop other = (v.drop other).drop name := by
  cases v with
  | obj members => exact congrArg Json.obj (Members.erase_comm name other members)
  | _ => rfl

theorem drop_mapItems (name : String) (f : Json → Json) (v : Json) :
    (v.mapItems f).drop name = (v.drop name).mapItems f := by
  cases v <;> rfl

theorem step?_drop_of_ne (h : step ≠ .key name) (v : Json) :
    (v.drop name).step? step = v.step? step := by
  cases v with
  | obj members =>
      cases step with
      | key key =>
          have hne : key ≠ name := fun heq => h (heq ▸ rfl)
          exact Members.find?_erase_of_ne hne members
      | index i => rfl
  | _ => rfl

theorem drop_replaceStep_of_ne (h : step ≠ .key name) (v x : Json) :
    (v.replaceStep step x).drop name = (v.drop name).replaceStep step x := by
  cases v with
  | obj members =>
      cases step with
      | key key =>
          have hne : name ≠ key := fun heq => h (heq ▸ rfl)
          exact congrArg Json.obj (Members.erase_put_of_ne hne x members)
      | index i => rfl
  | _ => cases step <;> rfl

theorem drop_modify (hg : ∀ v : Json, (g v).drop name = g (v.drop name)) (v : Json)
    (steps : List Step) : (v.modify g steps).drop name = (v.drop name).modify g steps := by
  cases steps with
  | nil => exact hg v
  | cons step steps =>
      by_cases hstep : step = .key name
      · subst hstep
        rw [modify_of_none (step?_drop name v)]
        cases hchild : v.step? (.key name) with
        | none => rw [modify_of_none hchild]
        | some child => rw [modify_of_some hchild, drop_replaceStep_self]
      · have hkept := step?_drop_of_ne hstep v
        cases hchild : v.step? step with
        | none => rw [modify_of_none hchild, modify_of_none (hkept.trans hchild)]
        | some child =>
            rw [modify_of_some hchild, modify_of_some (hkept.trans hchild),
              drop_replaceStep_of_ne hstep]

theorem mapItems_replaceStep_index {i : Nat} (f : Json → Json) (v x : Json) :
    (v.replaceStep (.index i) x).mapItems f = (v.mapItems f).replaceStep (.index i) (f x) := by
  cases v with
  | arr items => exact congrArg Json.arr List.map_set
  | _ => rfl

theorem mapItems_replaceStep_key (f : Json → Json) (name : String) (v x : Json) :
    (v.replaceStep (.key name) x).mapItems f = (v.mapItems f).replaceStep (.key name) x := by
  cases v <;> rfl

theorem step?_mapItems_index (f : Json → Json) (v : Json) (i : Nat) :
    (v.mapItems f).step? (.index i) = (v.step? (.index i)).map f := by
  cases v with
  | arr items => exact List.getElem?_map
  | _ => rfl

theorem step?_mapItems_key (f : Json → Json) (v : Json) (name : String) :
    (v.mapItems f).step? (.key name) = v.step? (.key name) := by
  cases v <;> rfl

theorem mapItems_modify {f : Json → Json} (hg : ∀ v : Json, (g v).mapItems f = g (v.mapItems f))
    (hf : ∀ (v : Json) (steps : List Step), f (v.modify g steps) = (f v).modify g steps)
    (v : Json) (steps : List Step) :
    (v.modify g steps).mapItems f = (v.mapItems f).modify g steps := by
  cases steps with
  | nil => exact hg v
  | cons step steps =>
      cases step with
      | key name =>
          have hkept := step?_mapItems_key f v name
          cases hchild : v.step? (.key name) with
          | none => rw [modify_of_none hchild, modify_of_none (hkept.trans hchild)]
          | some child =>
              rw [modify_of_some hchild, modify_of_some (hkept.trans hchild),
                mapItems_replaceStep_key]
      | index i =>
          have hmapped := step?_mapItems_index f v i
          cases hchild : v.step? (.index i) with
          | none =>
              rw [hchild] at hmapped
              rw [modify_of_none hchild, modify_of_none hmapped]
          | some child =>
              rw [hchild] at hmapped
              rw [modify_of_some hchild, modify_of_some hmapped, mapItems_replaceStep_index, hf]

theorem drop_dropTarget (name other : String) (wildcard : Bool) (v : Json) :
    (v.dropTarget other wildcard).drop name = (v.drop name).dropTarget other wildcard := by
  cases wildcard with
  | false => exact drop_comm other name v
  | true => exact drop_mapItems name (drop other) v

theorem mapItems_drop_dropTarget (name other : String) (wildcard : Bool) (v : Json) :
    (v.dropTarget other wildcard).mapItems (drop name) =
      (v.mapItems (drop name)).dropTarget other wildcard := by
  cases wildcard with
  | false => exact (drop_mapItems other (drop name) v).symm
  | true =>
      simp only [dropTarget, if_true]
      rw [mapItems_mapItems, mapItems_mapItems, funext (drop_comm other name)]

theorem dropTarget_modify (name other : String) (wildcard wildcard' : Bool) (v : Json)
    (steps : List Step) :
    (v.modify (dropTarget other wildcard') steps).dropTarget name wildcard =
      (v.dropTarget name wildcard).modify (dropTarget other wildcard') steps := by
  have hdrop := drop_modify (drop_dropTarget name other wildcard')
  cases wildcard with
  | false => exact hdrop v steps
  | true => exact mapItems_modify (mapItems_drop_dropTarget name other wildcard') hdrop v steps

theorem dropTarget_self (name : String) (wildcard : Bool) (v : Json) :
    (v.dropTarget name wildcard).dropTarget name wildcard = v.dropTarget name wildcard := by
  cases wildcard with
  | false => exact drop_drop_self name v
  | true =>
      simp only [dropTarget, if_true]
      rw [mapItems_mapItems, funext (drop_drop_self name)]

section Paths

variable {path next : Path} {paths others : List Path}

theorem without_comm (hpath : path.target.EndsInKey) (hnext : next.target.EndsInKey) (v : Json) :
    (v.without path).without next = (v.without next).without path := by
  obtain ⟨name, hname⟩ := hpath
  obtain ⟨other, hother⟩ := hnext
  rw [without_eq_modify hname, without_eq_modify hother, without_eq_modify hname,
    without_eq_modify hother]
  apply modify_comm
  · exact fun v steps => dropTarget_modify name other _ _ v steps
  · exact fun v steps => dropTarget_modify other name _ _ v steps

theorem without_self (hpath : path.target.EndsInKey) (v : Json) :
    (v.without path).without path = v.without path := by
  obtain ⟨name, hname⟩ := hpath
  rw [without_eq_modify hname, without_eq_modify hname, modify_modify]
  simp only [dropTarget_self]

theorem withoutAll_without (hpaths : ∀ path ∈ paths, path.target.EndsInKey)
    (hpath : path ∈ paths) (v : Json) : (v.without path).withoutAll paths = v.withoutAll paths := by
  induction paths generalizing v with
  | nil => cases hpath
  | cons next paths ih =>
      obtain ⟨hnext, hrest⟩ := List.forall_mem_cons.mp hpaths
      rw [withoutAll_cons, withoutAll_cons]
      rcases List.mem_cons.mp hpath with rfl | hmem
      · rw [without_self hnext]
      · rw [without_comm (hrest path hmem) hnext]
        exact ih hrest hmem (v.without next)

theorem withoutAll_assign (hpaths : ∀ path ∈ paths, path.target.EndsInKey)
    (hpath : path ∈ paths) (v x : Json) :
    ((v.assign? path x).getD v).withoutAll paths = v.withoutAll paths := by
  rw [← withoutAll_without hpaths hpath, without_assign,
    withoutAll_without hpaths hpath]

theorem withoutAll_without_comm (hpaths : ∀ path ∈ paths, path.target.EndsInKey)
    (hnext : next.target.EndsInKey) (v : Json) :
    (v.without next).withoutAll paths = (v.withoutAll paths).without next := by
  induction paths generalizing v with
  | nil => rfl
  | cons path paths ih =>
      obtain ⟨hpath, hrest⟩ := List.forall_mem_cons.mp hpaths
      rw [withoutAll_cons, withoutAll_cons, without_comm hnext hpath]
      exact ih hrest (v.without path)

theorem withoutAll_comm (hpaths : ∀ path ∈ paths, path.target.EndsInKey)
    (hothers : ∀ path ∈ others, path.target.EndsInKey) (v : Json) :
    (v.withoutAll others).withoutAll paths = (v.withoutAll paths).withoutAll others := by
  induction others generalizing v with
  | nil => rfl
  | cons other others ih =>
      obtain ⟨hother, hrest⟩ := List.forall_mem_cons.mp hothers
      rw [withoutAll_cons, withoutAll_cons, ← withoutAll_without_comm hpaths hother]
      exact ih hrest (v.without other)

theorem withoutAll_withoutAll (hpaths : ∀ path ∈ paths, path.target.EndsInKey)
    (hsubset : others ⊆ paths) (v : Json) :
    (v.withoutAll others).withoutAll paths = v.withoutAll paths := by
  induction others generalizing v with
  | nil => rfl
  | cons other others ih =>
      obtain ⟨hother, hrest⟩ := List.cons_subset.mp hsubset
      calc (v.withoutAll (other :: others)).withoutAll paths
        _ = (v.without other).withoutAll paths := ih hrest (v.without other)
        _ = v.withoutAll paths := withoutAll_without hpaths hother v

theorem withoutAll_eq_of_subset (hpaths : ∀ path ∈ paths, path.target.EndsInKey)
    (hsubset : paths ⊆ others) (hothers : others ⊆ paths) (v : Json) :
    v.withoutAll paths = v.withoutAll others := by
  have hkeys : ∀ path ∈ others, path.target.EndsInKey := fun path hpath =>
    hpaths path (hothers hpath)
  calc v.withoutAll paths
    _ = (v.withoutAll others).withoutAll paths := (withoutAll_withoutAll hpaths hothers v).symm
    _ = (v.withoutAll paths).withoutAll others := withoutAll_comm hpaths hkeys v
    _ = v.withoutAll others := withoutAll_withoutAll hkeys hsubset v

theorem foldlM_remove (paths : List Path) (v : Json) :
    paths.foldlM (fun w path => w.remove path .skip) v = .ok (v.withoutAll paths) := by
  induction paths generalizing v with
  | nil => rfl
  | cons path paths ih =>
      rw [List.foldlM_cons, remove_skip]
      exact ih (v.without path)

/-- Members are removed by their names in any order and as often as one likes: it is the
set of their paths that decides what is left. -/
theorem remove_keys (hpaths : ∀ path ∈ paths, path.target.EndsInKey)
    (hsame : ∀ path, path ∈ paths ↔ path ∈ others) (v : Json) :
    ∃ w, paths.foldlM (fun u path => u.remove path .skip) v = .ok w ∧
      others.foldlM (fun u path => u.remove path .skip) v = .ok w ∧
      paths.foldlM (fun u path => u.remove path .skip) w = .ok w := by
  refine ⟨v.withoutAll paths, foldlM_remove paths v, ?_, ?_⟩
  · rw [foldlM_remove, withoutAll_eq_of_subset hpaths (fun path => (hsame path).mp)
      (fun path => (hsame path).mpr)]
  · rw [foldlM_remove, withoutAll_withoutAll hpaths (List.Subset.refl paths)]

end Paths

def linedOrder : Json :=
  .obj [("id", .ofNat 1), ("lines", .arr
    [.obj [("id", .ofNat 2), ("item", .str "pen"), ("count", .ofNat 5)], .null,
      .obj [("item", .str "ink"), ("id", .ofNat 3)]])]

def lineIds : Path := ⟨"lines.*id", [.key "lines"], .eachKey "id"⟩

def firstItem : Path := ⟨"lines.[0].item", [.key "lines", .index 0], .key "item"⟩

theorem remove_keys_lines :
    (∀ path ∈ [lineIds, firstItem], path.target.EndsInKey) ∧
      (∀ path, path ∈ [lineIds, firstItem] ↔ path ∈ [firstItem, lineIds, firstItem]) ∧
      ∃ w, w = .obj [("id", .ofNat 1), ("lines", .arr
          [.obj [("count", .ofNat 5)], .null, .obj [("item", .str "ink")]])] ∧
        [lineIds, firstItem].foldlM (fun u path => u.remove path .skip) linedOrder = .ok w ∧
        [firstItem, lineIds, firstItem].foldlM (fun u path => u.remove path .skip) linedOrder =
          .ok w ∧
        [lineIds, firstItem].foldlM (fun u path => u.remove path .skip) w = .ok w := by
  have hkeys : ∀ path ∈ [lineIds, firstItem], path.target.EndsInKey := by
    simp [lineIds, firstItem, Target.EndsInKey, Target.step]
  have hsame : ∀ path, path ∈ [lineIds, firstItem] ↔ path ∈ [firstItem, lineIds, firstItem] := by
    intro path
    simp only [List.mem_cons, List.not_mem_nil, or_false]
    exact ⟨.inr, fun h => h.elim .inr id⟩
  obtain ⟨w, hw, hothers, hagain⟩ := remove_keys hkeys hsame linedOrder
  refine ⟨hkeys, hsame, w, ?_, hw, hothers, hagain⟩
  exact Except.ok.inj (hw.symm.trans rfl)

end Json

end HttpScenario
