import HttpScenario.Proofs.Json.Alike

namespace HttpScenario

/-! Paths that part. What they set are different places, and setting both comes to the same in
either order, but for the order of members that were not there before. -/

namespace Path

/-- All steps of a path; the last one is that of its target. -/
def steps (path : Path) : List Step := path.parents ++ [path.target.step]

/-- Two paths that take different steps somewhere, after the same steps. -/
def Diverges (path other : Path) : Prop :=
  ∃ shared step next below rest, path.steps = shared ++ step :: below ∧
    other.steps = shared ++ next :: rest ∧ step ≠ next

end Path

namespace Json

variable {v w x y : Json} {step other : Step} {f g : Option Json → Option Json}

theorem put_comm_alike {members : Members Json} {name key : String} (hne : name ≠ key)
    (hv : WellFormed (.obj members)) (hx : x.WellFormed) (hy : y.WellFormed) :
    Alike (.obj ((members.put name x).put key y)) (.obj ((members.put key y).put name x)) := by
  have hleft := (hv.put name hx).put key hy
  have hright := (hv.put key hy).put name hx
  refine alike_obj_iff.mpr ⟨hleft.distinct, hright.distinct, fun last => ?_⟩
  rw [Members.find?_put_comm hne]
  exact (alike_obj_iff.mp (.refl hright)).2.2 last

theorem replaceStep_comm_alike (hne : step ≠ other) (hv : v.WellFormed) (hx : x.WellFormed)
    (hy : y.WellFormed) :
    Alike ((v.replaceStep step x).replaceStep other y)
      ((v.replaceStep other y).replaceStep step x) := by
  have hform := (hv.replaceStep step hx).replaceStep other hy
  cases step with
  | key name =>
      cases other with
      | key key =>
          cases v with
          | obj members =>
              have hnames : name ≠ key := fun heq => hne (heq ▸ rfl)
              exact put_comm_alike hnames hv hx hy
          | _ => exact .refl hform
      | index j => cases v <;> exact .refl hform
  | index i =>
      cases other with
      | key key => cases v <;> exact .refl hform
      | index j =>
          cases v with
          | arr items =>
              have hplaces : i ≠ j := fun heq => hne (heq ▸ rfl)
              have hsame : ((arr items).replaceStep (.index i) x).replaceStep (.index j) y =
                  ((arr items).replaceStep (.index j) y).replaceStep (.index i) x :=
                congrArg Json.arr (List.set_comm x y hplaces)
              rw [← hsame]
              exact .refl hform
          | _ => exact .refl hform

/-- A document with a new value where a step leads, made from what it leads to before. -/
def alterAt (v : Json) (change : Option Json → Option Json) (step : Step) : Json :=
  match change (v.step? step) with
  | none => v
  | some x => v.replaceStep step x

theorem alterAt_of_none (h : f (v.step? step) = none) : v.alterAt f step = v := by
  rw [alterAt, h]

theorem alterAt_of_some (h : f (v.step? step) = some x) :
    v.alterAt f step = v.replaceStep step x := by
  rw [alterAt, h]

theorem step?_alterAt_of_ne (hne : other ≠ step) (v : Json) (f : Option Json → Option Json) :
    (v.alterAt f step).step? other = v.step? other := by
  rw [alterAt]
  split
  · rfl
  · exact step?_replaceStep_of_ne hne v _

theorem WellFormed.alterAt (hv : v.WellFormed)
    (hf : ∀ x, f (v.step? step) = some x → x.WellFormed) : (v.alterAt f step).WellFormed := by
  rw [Json.alterAt]
  split
  · exact hv
  · next x hx => exact hv.replaceStep step (hf x hx)

theorem alterAt_comm (hne : step ≠ other) (hv : v.WellFormed)
    (hf : ∀ x, f (v.step? step) = some x → x.WellFormed)
    (hg : ∀ y, g (v.step? other) = some y → y.WellFormed) :
    Alike ((v.alterAt f step).alterAt g other) ((v.alterAt g other).alterAt f step) := by
  have hstep := step?_alterAt_of_ne hne v g
  have hother := step?_alterAt_of_ne hne.symm v f
  cases hx : f (v.step? step) with
  | none =>
      have hnone : f ((v.alterAt g other).step? step) = none := hstep ▸ hx
      rw [alterAt_of_none hx, alterAt_of_none hnone]
      exact .refl (hv.alterAt hg)
  | some x =>
      have hsome : f ((v.alterAt g other).step? step) = some x := hstep ▸ hx
      cases hy : g (v.step? other) with
      | none =>
          have hnone : g ((v.alterAt f step).step? other) = none := hother ▸ hy
          rw [alterAt_of_none hy, alterAt_of_none hnone]
          exact .refl (hv.alterAt hf)
      | some y =>
          have hsome' : g ((v.alterAt f step).step? other) = some y := hother ▸ hy
          rw [alterAt_of_some hsome', alterAt_of_some hsome, alterAt_of_some hx,
            alterAt_of_some hy]
          exact replaceStep_comm_alike hne hv (hf x hx) (hg y hy)

theorem modify_cons_eq_alterAt (h : Json → Json) (v : Json) (step : Step) (steps : List Step) :
    v.modify h (step :: steps) = v.alterAt (Option.map (·.modify h steps)) step := by
  rw [alterAt]
  cases hchild : v.step? step with
  | none => exact modify_of_none hchild h steps
  | some child => exact modify_of_some hchild h steps

theorem exists_alterAt {path : Path} {shared below : List Step} (hx : x.WellFormed)
    (hsingle : path.target.isWildcard = false) (hsteps : path.steps = shared ++ step :: below) :
    ∃ change, (∀ {v y : Json}, v.WellFormed → change (v.step? step) = some y → y.WellFormed) ∧
      ∀ v : Json, v.assigned path x = v.modify (·.alterAt change step) shared := by
  rcases List.eq_nil_or_concat below with rfl | ⟨below, last, rfl⟩
  · obtain ⟨hparents, hstep⟩ := List.append_inj' hsteps rfl
    cases hstep
    refine ⟨fun _ => some x, fun _ hy => Option.some.inj hy ▸ hx, fun v => ?_⟩
    rw [assigned_eq_modify, hparents]
    simp only [setTarget, hsingle]
    rfl
  · rw [List.concat_eq_append, ← List.cons_append, ← List.append_assoc] at hsteps
    obtain ⟨hparents, -⟩ := List.append_inj' hsteps rfl
    refine ⟨Option.map (·.modify (·.setTarget path.target x) below), ?_, fun v => ?_⟩
    · intro v y hv hy
      obtain ⟨child, hchild, rfl⟩ := Option.map_eq_some_iff.mp hy
      have hreached : ∀ {v w : Json}, Alike v w →
          Alike (v.setTarget path.target x) (w.setTarget path.target x) :=
        fun h => h.setTarget path.target (.refl hx)
      exact (Alike.modify hreached (.refl (hv.step? hchild)) below).left
    · rw [assigned_eq_modify, hparents, modify_append]
      simp only [modify_cons_eq_alterAt]

theorem assigned_comm {path next : Path} (hdiverges : path.Diverges next)
    (hpath : path.target.isWildcard = false) (hnext : next.target.isWildcard = false)
    (hv : v.WellFormed) (hx : x.WellFormed) (hy : y.WellFormed) :
    Alike ((v.assigned path x).assigned next y) ((v.assigned next y).assigned path x) := by
  obtain ⟨shared, step, other, below, rest, hsteps, hothers, hne⟩ := hdiverges
  obtain ⟨f, hf, hfirst⟩ := exists_alterAt hx hpath hsteps
  obtain ⟨g, hg, hsecond⟩ := exists_alterAt hy hnext hothers
  rw [hfirst, hsecond, hsecond, hfirst, modify_modify, modify_modify]
  exact modify_alike hv (fun hw => alterAt_comm hne hw (fun _ => hf hw) (fun _ => hg hw)) shared

end Json

end HttpScenario
