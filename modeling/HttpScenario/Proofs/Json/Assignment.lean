import HttpScenario.Proofs.Json.Change

namespace HttpScenario

namespace Json

/-- Whether a step of a container can be set: any member of an object, and an element of
an array that is there. -/
def Admits : Json → Step → Prop
  | .obj _, .key _ => True
  | .arr items, .index i => i < items.length
  | _, _ => False

/-- A container after some of its steps were set: as many elements as before, or the same
names in the same order, but for a new one at the end. -/
inductive Extends (set : Step → Prop) : Json → Json → Prop where
  | arr {items others : List Json} (h : others.length = items.length) :
      Extends set (.arr items) (.arr others)
  | obj {members others : Members Json} (h : others.names = members.names) :
      Extends set (.obj members) (.obj others)
  | member {members others : Members Json} {name : String} (hset : set (.key name))
      (hfresh : name ∉ members.names) (h : others.names = members.names ++ [name]) :
      Extends set (.obj members) (.obj others)

theorem SameShape.extends {v w : Json} (h : v.SameShape w) (set : Step → Prop) :
    v.Extends set w := by
  cases h with
  | arr h => exact .arr h
  | obj h => exact .obj h

theorem Extends.mono {set set' : Step → Prop} {v w : Json} (h : v.Extends set w)
    (hsub : ∀ step, set step → set' step) : v.Extends set' w := by
  cases h with
  | arr h => exact .arr h
  | obj h => exact .obj h
  | member hset hfresh h => exact .member (hsub _ hset) hfresh h

end Json

namespace Target

variable {x v w : Json} {step : Step}

theorem exists_assignOne? (h : v.Admits step) (x : Json) : ∃ w, assignOne? x v step = some w := by
  cases step with
  | key name =>
      cases v with
      | obj members => exact ⟨_, rfl⟩
      | _ => cases h
  | index i =>
      cases v with
      | arr items => exact ⟨_, if_pos h⟩
      | _ => cases h

theorem admits_of_assignOne? (h : assignOne? x v step = some w) : v.Admits step := by
  cases step with
  | key name =>
      cases v with
      | obj members => trivial
      | _ => cases h
  | index i =>
      cases v with
      | arr items =>
          rw [assignOne?, Option.ite_none_right_eq_some] at h
          exact h.1
      | _ => cases h

theorem assignOne?_eq_some (h : assignOne? x v step = some w) :
    w.step? step = some x ∧ (∀ other, other ≠ step → w.step? other = v.step? other) ∧
      v.Extends (· = step) w := by
  cases step with
  | key name =>
      cases v with
      | obj members =>
          cases h
          refine ⟨Members.find?_put_self name x members,
            fun other hother => Json.step?_replaceStep_of_ne hother (.obj members) x, ?_⟩
          by_cases hmem : name ∈ Members.names members
          · exact .obj (Members.names_put_of_mem hmem x)
          · refine .member rfl hmem ?_
            rw [Members.put_of_not_mem hmem, Members.names_append]
            rfl
      | _ => cases h
  | index i =>
      cases v with
      | arr items =>
          rw [assignOne?, Option.ite_none_right_eq_some] at h
          obtain ⟨hi, h⟩ := h
          cases h
          exact ⟨List.getElem?_set_self hi,
            fun other hother => Json.step?_replaceStep_of_ne hother (.arr items) x,
            .arr List.length_set⟩
      | _ => cases h

end Target

/-- The places that a path addresses for writing: its step in every container that admits
it. There is none where a parent step leads nowhere. -/
def Path.Sets (path : Path) (v : Json) (place : Place) : Prop :=
  ∃ spot container, path.Addresses v spot container ∧ container.Admits path.target.step ∧
    place = spot ++ [path.target.step]

namespace Json

/-- The document `w` is `v` with `x` at some places. What lies neither at one of them nor
below nor above is as before, and the containers above are extended by those places only. -/
structure SetAt (places : Place → Prop) (x v w : Json) : Prop where
  set : ∀ {place}, places place → w.descend? place = some x
  apart : ∀ {place}, (∀ other, places other → ¬ other <+: place ∧ ¬ place <+: other) →
    w.descend? place = v.descend? place
  above : ∀ {place step below}, places (place ++ step :: below) →
    ∃ upper upper', v.descend? place = some upper ∧ w.descend? place = some upper' ∧
      upper.Extends (fun step => places (place ++ [step])) upper'
  idle : (∀ place, ¬ places place) → w = v

theorem update_skip (v : Json) (path : Path) (x : Json) :
    v.update path x .skip = .ok ((v.assign? path x).getD v) := by
  rw [update, (assign_copyOf v path x).settle_skip]

theorem exists_other_step {spot place : Place} {step : Step} (hbelow : spot <+: place)
    (happart : ¬ (spot ++ [step]) <+: place ∧ ¬ place <+: (spot ++ [step])) :
    ∃ other rest, other ≠ step ∧ place = spot ++ other :: rest := by
  obtain ⟨rest, rfl⟩ := hbelow
  cases rest with
  | nil => exact absurd (by simp) happart.2
  | cons other rest =>
      refine ⟨other, rest, ?_, rfl⟩
      rintro rfl
      apply happart.1
      simp

theorem assign?_setAt (v : Json) (path : Path) (x : Json) :
    SetAt (path.Sets v) x v ((v.assign? path x).getD v) := by
  have hchange := alter?_changedAt (Target.assignOne? x) v path
  rw [← assign?] at hchange
  generalize (v.assign? path x).getD v = w at hchange
  refine ⟨?_, ?_, ?_, ?_⟩
  · rintro _ ⟨spot, container, haddresses, hadmits, rfl⟩
    obtain ⟨after, hafter⟩ := Target.exists_assignOne? hadmits x
    obtain ⟨-, hspot⟩ := hchange.changed ⟨haddresses, hafter⟩
    obtain ⟨hset, -⟩ := Target.assignOne?_eq_some hafter
    rw [descend?_append, hspot, Option.bind_some, descend?_cons, hset]
    rfl
  · intro place happart
    by_cases hbelow : ∃ spot container after, path.Addresses v spot container ∧
        Target.assignOne? x container path.target.step = some after ∧ spot <+: place
    · obtain ⟨spot, container, after, haddresses, hafter, habove⟩ := hbelow
      have hsets : path.Sets v (spot ++ [path.target.step]) :=
        ⟨spot, container, haddresses, Target.admits_of_assignOne? hafter, rfl⟩
      obtain ⟨other, rest, hother, rfl⟩ := exists_other_step habove (happart _ hsets)
      obtain ⟨hbefore, hspot⟩ := hchange.changed ⟨haddresses, hafter⟩
      obtain ⟨-, hkept, -⟩ := Target.assignOne?_eq_some hafter
      rw [descend?_append, descend?_append, hspot, hbefore, Option.bind_some, Option.bind_some,
        descend?_cons, descend?_cons, hkept other hother]
    · apply hchange.apart
      rintro spot container after ⟨haddresses, hafter⟩
      have hsets : path.Sets v (spot ++ [path.target.step]) :=
        ⟨spot, container, haddresses, Target.admits_of_assignOne? hafter, rfl⟩
      refine ⟨fun habove => hbelow ⟨spot, container, after, haddresses, hafter, habove⟩, ?_⟩
      intro habove
      exact (happart _ hsets).2 (habove.trans (List.prefix_append spot _))
  · rintro place step below ⟨spot, container, haddresses, hadmits, hplace⟩
    obtain ⟨after, hafter⟩ := Target.exists_assignOne? hadmits x
    obtain ⟨hbefore, hspot⟩ := hchange.changed ⟨haddresses, hafter⟩
    obtain ⟨-, -, hextends⟩ := Target.assignOne?_eq_some hafter
    rcases List.eq_nil_or_concat below with rfl | ⟨below, last, rfl⟩
    · obtain ⟨rfl, hstep⟩ := List.append_inj' hplace rfl
      refine ⟨container, after, hbefore, hspot, hextends.mono ?_⟩
      rintro _ rfl
      exact ⟨place, container, haddresses, hadmits, rfl⟩
    · rw [List.concat_eq_append, ← List.cons_append, ← List.append_assoc] at hplace
      obtain ⟨rfl, -⟩ := List.append_inj' hplace rfl
      obtain ⟨upper, upper', hupper, hupper', hshape⟩ := hchange.above ⟨haddresses, hafter⟩
      exact ⟨upper, upper', hupper, hupper', hshape.extends _⟩
  · intro hidle
    apply hchange.idle
    rintro spot container after ⟨haddresses, hafter⟩
    exact hidle _ ⟨spot, container, haddresses, Target.admits_of_assignOne? hafter, rfl⟩

/-- Setting what a path addresses succeeds, and sets exactly the places that the path
addresses for writing. -/
theorem update_setAt (v : Json) (path : Path) (x : Json) :
    ∃ w, v.update path x .skip = .ok w ∧ SetAt (path.Sets v) x v w :=
  ⟨_, update_skip v path x, assign?_setAt v path x⟩

end Json

end HttpScenario
