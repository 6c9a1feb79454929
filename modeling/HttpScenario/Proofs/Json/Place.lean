import HttpScenario.Json.Edit
import HttpScenario.Proofs.Json.Members

namespace HttpScenario

/-- The steps from a document down to a place in it. -/
abbrev Place := List Step

namespace Json

variable {v child x : Json} {step other : Step}

@[simp] theorem descend?_nil (v : Json) : v.descend? [] = some v := rfl

theorem descend?_cons (v : Json) (step : Step) (place : Place) :
    v.descend? (step :: place) = (v.step? step).bind (·.descend? place) := rfl

theorem descend?_append (v : Json) (place below : Place) :
    v.descend? (place ++ below) = (v.descend? place).bind (·.descend? below) := by
  induction place generalizing v with
  | nil => rfl
  | cons step place ih =>
      rw [List.cons_append, descend?_cons, descend?_cons]
      cases v.step? step with
      | none => rfl
      | some child => exact ih child

theorem step?_replaceStep_self (h : v.step? step = some child) (x : Json) :
    (v.replaceStep step x).step? step = some x := by
  cases step with
  | key name =>
      cases v with
      | obj members => exact Members.find?_put_self name x members
      | _ => cases h
  | index i =>
      cases v with
      | arr items =>
          obtain ⟨hi, -⟩ := List.getElem?_eq_some_iff.mp h
          exact List.getElem?_set_self hi
      | _ => cases h

theorem step?_replaceStep_of_ne (h : other ≠ step) (v x : Json) :
    (v.replaceStep step x).step? other = v.step? other := by
  cases step with
  | key name =>
      cases v with
      | obj members =>
          cases other with
          | key key =>
              have hne : key ≠ name := fun heq => h (heq ▸ rfl)
              exact Members.find?_put_of_ne hne x members
          | index j => rfl
      | _ => rfl
  | index i =>
      cases v with
      | arr items =>
          cases other with
          | key key => rfl
          | index j =>
              have hne : i ≠ j := fun heq => h (heq ▸ rfl)
              exact List.getElem?_set_ne hne
      | _ => rfl

theorem replaceStep_eq_self (h : v.step? step = some child) : v.replaceStep step child = v := by
  cases step with
  | key name =>
      cases v with
      | obj members => exact congrArg Json.obj (Members.put_eq_self h)
      | _ => rfl
  | index i =>
      cases v with
      | arr items =>
          obtain ⟨hi, rfl⟩ := List.getElem?_eq_some_iff.mp h
          exact congrArg Json.arr (List.set_getElem_self hi)
      | _ => rfl

theorem replaceStep_replaceStep (v : Json) (step : Step) (old x : Json) :
    (v.replaceStep step old).replaceStep step x = v.replaceStep step x := by
  cases step with
  | key name =>
      cases v with
      | obj members => exact congrArg Json.obj (Members.put_put name old x members)
      | _ => rfl
  | index i =>
      cases v with
      | arr items => exact congrArg Json.arr (List.set_set old)
      | _ => rfl

theorem replaceStep_comm {first second : Json} (hne : step ≠ other)
    (hstep : v.step? step = some first) (hother : v.step? other = some second) (x y : Json) :
    (v.replaceStep step x).replaceStep other y = (v.replaceStep other y).replaceStep step x := by
  cases step with
  | key name =>
      cases v with
      | obj members =>
          cases other with
          | key key =>
              have hnames : name ≠ key := fun heq => hne (heq ▸ rfl)
              exact congrArg Json.obj (Members.put_comm hnames
                (Members.mem_names_of_find? hstep) (Members.mem_names_of_find? hother) x y)
          | index j => cases hother
      | _ => cases hstep
  | index i =>
      cases v with
      | arr items =>
          cases other with
          | key key => cases hother
          | index j =>
              have hplaces : i ≠ j := fun heq => hne (heq ▸ rfl)
              exact congrArg Json.arr (List.set_comm x y hplaces)
      | _ => cases hstep

/-- Two containers of one kind with as many elements, or with the same names in the same
order. -/
inductive SameShape : Json → Json → Prop where
  | arr {items others : List Json} (h : others.length = items.length) :
      SameShape (.arr items) (.arr others)
  | obj {members others : Members Json} (h : others.names = members.names) :
      SameShape (.obj members) (.obj others)

theorem replaceStep_sameShape (h : v.step? step = some child) (x : Json) :
    v.SameShape (v.replaceStep step x) := by
  cases step with
  | key name =>
      cases v with
      | obj members => exact .obj (Members.names_put_of_mem (Members.mem_names_of_find? h) x)
      | _ => cases h
  | index i =>
      cases v with
      | arr items => exact .arr List.length_set
      | _ => cases h

def alter? (change : Json → Option Json) (v : Json) : List Step → Option Json
  | [] => change v
  | step :: steps => do
      let child ← v.step? step
      let changed ← child.alter? change steps
      return v.replaceStep step changed

theorem alter?_of_none (h : v.step? step = none) (change : Json → Option Json)
    (steps : List Step) : v.alter? change (step :: steps) = none := by
  rw [alter?, h]
  rfl

theorem alter?_of_some (h : v.step? step = some child) (change : Json → Option Json)
    (steps : List Step) :
    v.alter? change (step :: steps) = (child.alter? change steps).map (v.replaceStep step) := by
  rw [alter?, h, Option.map_eq_bind]
  rfl

/-- A document with a change made where steps lead, if they lead anywhere. -/
def modify (f : Json → Json) (v : Json) : List Step → Json
  | [] => f v
  | step :: steps =>
      match v.step? step with
      | none => v
      | some child => v.replaceStep step (child.modify f steps)

variable {f g : Json → Json} {steps : List Step}

theorem modify_of_none (h : v.step? step = none) (f : Json → Json) (steps : List Step) :
    v.modify f (step :: steps) = v := by
  rw [modify, h]

theorem modify_of_some (h : v.step? step = some child) (f : Json → Json) (steps : List Step) :
    v.modify f (step :: steps) = v.replaceStep step (child.modify f steps) := by
  rw [modify, h]

theorem alter?_getD (change : Json → Option Json) (v : Json) (steps : List Step) :
    (v.alter? change steps).getD v = v.modify (fun w => (change w).getD w) steps := by
  induction steps generalizing v with
  | nil => rfl
  | cons step steps ih =>
      cases hchild : v.step? step with
      | none =>
          rw [alter?_of_none hchild, modify_of_none hchild]
          rfl
      | some child =>
          rw [alter?_of_some hchild, modify_of_some hchild, ← ih child]
          cases child.alter? change steps with
          | none => exact (replaceStep_eq_self hchild).symm
          | some changed => rfl

theorem modify_congr (h : ∀ reached, v.descend? steps = some reached → f reached = g reached) :
    v.modify f steps = v.modify g steps := by
  induction steps generalizing v with
  | nil => exact h v rfl
  | cons step steps ih =>
      cases hchild : v.step? step with
      | none => rw [modify_of_none hchild, modify_of_none hchild]
      | some child =>
          have hsame : child.modify f steps = child.modify g steps := by
            apply ih
            intro reached hreached
            apply h
            rw [descend?_cons, hchild]
            exact hreached
          rw [modify_of_some hchild, modify_of_some hchild, hsame]

theorem modify_id (v : Json) (steps : List Step) : v.modify (fun w => w) steps = v := by
  induction steps generalizing v with
  | nil => rfl
  | cons step steps ih =>
      cases hchild : v.step? step with
      | none => exact modify_of_none hchild _ steps
      | some child =>
          rw [modify_of_some hchild, ih child]
          exact replaceStep_eq_self hchild

theorem modify_eq_self
    (h : ∀ reached, v.descend? steps = some reached → f reached = reached) :
    v.modify f steps = v :=
  (modify_congr h).trans (modify_id v steps)

theorem descend?_modify_self (f : Json → Json) (v : Json) (steps : List Step) :
    (v.modify f steps).descend? steps = (v.descend? steps).map f := by
  induction steps generalizing v with
  | nil => rfl
  | cons step steps ih =>
      cases hchild : v.step? step with
      | none =>
          rw [modify_of_none hchild, descend?_cons, hchild]
          rfl
      | some child =>
          rw [modify_of_some hchild, descend?_cons, descend?_cons, hchild,
            step?_replaceStep_self hchild]
          exact ih child

theorem descend?_of_alter? {change : Json → Option Json} {w : Json}
    (h : v.alter? change steps = some w) :
    ∃ before after, v.descend? steps = some before ∧ change before = some after ∧
      w.descend? steps = some after := by
  induction steps generalizing v w with
  | nil => exact ⟨v, w, rfl, h, rfl⟩
  | cons step steps ih =>
      obtain ⟨child, hchild, h⟩ := Option.bind_eq_some_iff.mp h
      obtain ⟨changed, hchanged, h⟩ := Option.bind_eq_some_iff.mp h
      cases h
      obtain ⟨before, after, hbefore, hafter, hspot⟩ := ih hchanged
      refine ⟨before, after, ?_, hafter, ?_⟩
      · rw [descend?_cons, hchild]
        exact hbefore
      · rw [descend?_cons, step?_replaceStep_self hchild]
        exact hspot

theorem modify_modify (f g : Json → Json) (v : Json) (steps : List Step) :
    (v.modify g steps).modify f steps = v.modify (fun w => f (g w)) steps := by
  induction steps generalizing v with
  | nil => rfl
  | cons step steps ih =>
      cases hchild : v.step? step with
      | none => rw [modify_of_none hchild, modify_of_none hchild, modify_of_none hchild]
      | some child =>
          rw [modify_of_some hchild, modify_of_some hchild,
            modify_of_some (step?_replaceStep_self hchild _), replaceStep_replaceStep, ih child]

theorem modify_append (f : Json → Json) (v : Json) (steps below : List Step) :
    v.modify f (steps ++ below) = v.modify (·.modify f below) steps := by
  induction steps generalizing v with
  | nil => rfl
  | cons step steps ih =>
      cases hchild : v.step? step with
      | none => rw [List.cons_append, modify_of_none hchild, modify_of_none hchild]
      | some child => rw [List.cons_append, modify_of_some hchild, modify_of_some hchild, ih]

theorem modify_comm (hf : ∀ v steps, f (modify g v steps) = modify g (f v) steps)
    (hg : ∀ v steps, g (modify f v steps) = modify f (g v) steps) (v : Json)
    (steps others : List Step) :
    (v.modify f steps).modify g others = (v.modify g others).modify f steps := by
  induction steps generalizing v others with
  | nil => exact (hf v others).symm
  | cons step steps ih =>
      cases others with
      | nil => exact hg v (step :: steps)
      | cons other others =>
          cases hstep : v.step? step with
          | none =>
              rw [modify_of_none hstep]
              cases hother : v.step? other with
              | none => rw [modify_of_none hother, modify_of_none hstep]
              | some second =>
                  have hne : step ≠ other := by
                    rintro rfl
                    cases hstep.symm.trans hother
                  rw [modify_of_some hother, modify_of_none]
                  rw [step?_replaceStep_of_ne hne]
                  exact hstep
          | some first =>
              rw [modify_of_some hstep]
              by_cases heq : other = step
              · subst heq
                rw [modify_of_some (step?_replaceStep_self hstep _), replaceStep_replaceStep,
                  modify_of_some hstep, modify_of_some (step?_replaceStep_self hstep _),
                  replaceStep_replaceStep, ih first others]
              · have hkept := step?_replaceStep_of_ne heq v (first.modify f steps)
                cases hother : v.step? other with
                | none =>
                    rw [modify_of_none (hkept.trans hother), modify_of_none hother,
                      modify_of_some hstep]
                | some second =>
                    have hkept' : (v.replaceStep other (second.modify g others)).step? step =
                        some first := (step?_replaceStep_of_ne (Ne.symm heq) v _).trans hstep
                    rw [modify_of_some (hkept.trans hother), modify_of_some hother,
                      modify_of_some hkept', replaceStep_comm (Ne.symm heq) hstep hother]

end Json

end HttpScenario
