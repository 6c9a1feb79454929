import HttpScenario.Proofs.Json.Copies

namespace HttpScenario

/-! The containers that a path changes, and what stays as it is around them. -/

namespace Json

def mapItems (f : Json → Json) : Json → Json
  | .arr items => .arr (items.map f)
  | v => v

theorem mapItems_eq_self {f : Json → Json} {v : Json}
    (h : ∀ j item, v.item? j = some item → f item = item) : v.mapItems f = v := by
  cases v with
  | arr items =>
      apply congrArg Json.arr
      rw [List.map_congr_left, List.map_id]
      intro item hitem
      obtain ⟨j, hj⟩ := List.mem_iff_getElem?.mp hitem
      exact h j item hj
  | _ => rfl

theorem mapItems_mapItems (f g : Json → Json) (v : Json) :
    (v.mapItems g).mapItems f = v.mapItems fun item => f (g item) := by
  cases v with
  | arr items => exact congrArg Json.arr List.map_map
  | _ => rfl

end Json

namespace Target

def step : Target → Step
  | .key name => .key name
  | .index i => .index i
  | .eachKey name => .key name
  | .eachIndex i => .index i

/-- Whether the containers of a target are the elements of the document reached. -/
def isWildcard : Target → Bool
  | .key _ => false
  | .index _ => false
  | .eachKey _ => true
  | .eachIndex _ => true

theorem changeEach?_getD (change : Json → Option Json) (v : Json) :
    (changeEach? change v).getD v = v.mapItems fun item => (change item).getD item := by
  cases v with
  | arr items =>
      rw [changeEach?]
      split
      · rfl
      · next hany =>
          symm
          apply Json.mapItems_eq_self
          intro j item hitem
          cases hchange : change item with
          | none => rfl
          | some changed =>
              have hsome : (change item).isSome = true := by rw [hchange]; rfl
              exact absurd (List.any_eq_true.mpr ⟨item, List.mem_of_getElem? hitem, hsome⟩) hany
  | _ => rfl

theorem change?_getD (one : Json → Step → Option Json) (v : Json) (target : Target) :
    (target.change? one v).getD v =
      if target.isWildcard then v.mapItems fun item => (one item target.step).getD item
      else (one v target.step).getD v := by
  cases target with
  | key name => rfl
  | index i => rfl
  | eachKey name => exact changeEach?_getD _ v
  | eachIndex i => exact changeEach?_getD _ v

theorem select?_of_single {target : Target} (h : target.isWildcard = false) (v : Json) :
    target.select? v = v.step? target.step := by
  cases target with
  | key name => rfl
  | index i => rfl
  | eachKey name => cases h
  | eachIndex i => cases h

theorem change?_of_single {target : Target} (h : target.isWildcard = false)
    (one : Json → Step → Option Json) (v : Json) :
    target.change? one v = one v target.step := by
  cases target with
  | key name => rfl
  | index i => rfl
  | eachKey name => cases h
  | eachIndex i => cases h

/-- The containers in which a target addresses its step, with their places below the
document reached: the document itself, or the elements of an array. -/
inductive Addresses (target : Target) : Json → Place → Json → Prop where
  | itself {v : Json} (h : target.isWildcard = false) : Addresses target v [] v
  | element {items : List Json} {j : Nat} {item : Json} (h : target.isWildcard = true)
      (hitem : items[j]? = some item) : Addresses target (.arr items) [.index j] item

end Target

/-- The containers in which a path addresses the step of its target, with their places.
There is none where a parent step leads nowhere. -/
def Path.Addresses (path : Path) (v : Json) (place : Place) (container : Json) : Prop :=
  ∃ reached below, v.descend? path.parents = some reached ∧
    path.target.Addresses reached below container ∧ place = path.parents ++ below

namespace Json

variable {v w child changed : Json} {becomes : Place → Json → Json → Prop}

/-- The document `w` is `v` with a change made in the containers at some places: `becomes`
tells the container at a place and what it becomes. Above them containers keep their shape,
and nothing changes anywhere else. -/
structure ChangedAt (becomes : Place → Json → Json → Prop) (v w : Json) : Prop where
  changed : ∀ {place before after}, becomes place before after →
    v.descend? place = some before ∧ w.descend? place = some after
  apart : ∀ {place}, (∀ spot before after, becomes spot before after →
      ¬ spot <+: place ∧ ¬ place <+: spot) → w.descend? place = v.descend? place
  above : ∀ {place step below before after}, becomes (place ++ step :: below) before after →
    ∃ upper upper', v.descend? place = some upper ∧ w.descend? place = some upper' ∧
      upper.SameShape upper'
  idle : (∀ place before after, ¬ becomes place before after) → w = v

namespace ChangedAt

theorem congr {becomes' : Place → Json → Json → Prop} (h : ChangedAt becomes v w)
    (hiff : ∀ place before after, becomes place before after ↔ becomes' place before after) :
    ChangedAt becomes' v w := by
  have heq : becomes = becomes' := by
    funext place before after
    exact propext (hiff place before after)
  exact heq ▸ h

theorem root (change : Json → Option Json) (v : Json) :
    ChangedAt (fun place before after => place = [] ∧ before = v ∧ change v = some after) v
      ((change v).getD v) where
  changed := by
    rintro _ _ after ⟨rfl, rfl, hafter⟩
    simp [hafter]
  apart := by
    intro place happart
    cases hchange : change v with
    | none => rfl
    | some after => exact absurd List.nil_prefix (happart [] v after ⟨rfl, rfl, hchange⟩).1
  above := by
    rintro place step below _ _ ⟨hplace, -⟩
    simp at hplace
  idle := by
    intro hidle
    cases hchange : change v with
    | none => rfl
    | some after => exact absurd ⟨rfl, rfl, hchange⟩ (hidle [] v after)

theorem items (change : Json → Option Json) (v : Json) :
    ChangedAt (fun place before after => ∃ j, place = [.index j] ∧ v.item? j = some before ∧
        change before = some after) v
      (v.mapItems fun item => (change item).getD item) := by
  have hidle : (∀ place before after, ¬ ∃ j, place = [Step.index j] ∧ v.item? j = some before ∧
      change before = some after) → v.mapItems (fun item => (change item).getD item) = v := by
    intro hnone
    apply mapItems_eq_self
    intro j item hitem
    cases hchange : change item with
    | none => rfl
    | some after => exact absurd ⟨j, rfl, hitem, hchange⟩ (hnone _ item after)
  refine ⟨?_, ?_, ?_, hidle⟩
  · rintro _ before after ⟨j, rfl, hbefore, hafter⟩
    cases v with
    | arr items =>
        have hitem : items[j]? = some before := hbefore
        simp [mapItems, descend?_cons, step?, item?, hitem, hafter]
    | _ => cases hbefore
  · intro place happart
    cases place with
    | nil =>
        rw [hidle]
        rintro _ before after hchange
        exact (happart _ before after hchange).2 List.nil_prefix
    | cons step rest =>
        cases v with
        | arr items =>
            cases step with
            | key name => rfl
            | index j =>
                cases hitem : items[j]? with
                | none => simp [mapItems, descend?_cons, step?, item?, hitem]
                | some item =>
                    have hkept : change item = none := by
                      apply Option.eq_none_iff_forall_ne_some.mpr
                      intro after hafter
                      exact (happart _ item after ⟨j, rfl, hitem, hafter⟩).1
                        (List.prefix_append [.index j] rest)
                    simp [mapItems, descend?_cons, step?, item?, hitem, hkept]
        | _ => rfl
  · rintro place step below before _ ⟨j, hplace, hbefore, -⟩
    have hroot : place = [] := by
      cases place with
      | nil => rfl
      | cons => simp at hplace
    subst hroot
    cases v with
    | arr items => exact ⟨_, _, rfl, rfl, .arr (List.length_map _)⟩
    | _ => cases hbefore

theorem below {step : Step} (hchild : v.step? step = some child)
    (h : ChangedAt becomes child changed) :
    ChangedAt (fun place before after => ∃ rest, place = step :: rest ∧
      becomes rest before after) v (v.replaceStep step changed) := by
  have hself := step?_replaceStep_self hchild changed
  have hidle : (∀ place before after, ¬ becomes place before after) →
      v.replaceStep step changed = v := by
    intro hnone
    rw [h.idle hnone]
    exact replaceStep_eq_self hchild
  refine ⟨?_, ?_, ?_, ?_⟩
  · rintro _ before after ⟨rest, rfl, hbecomes⟩
    rw [descend?_cons, descend?_cons, hchild, hself]
    exact h.changed hbecomes
  · intro place happart
    cases place with
    | nil =>
        rw [hidle]
        intro rest before after hbecomes
        exact (happart _ before after ⟨rest, rfl, hbecomes⟩).2 List.nil_prefix
    | cons other rest =>
        rw [descend?_cons, descend?_cons]
        by_cases hother : other = step
        · subst hother
          rw [hchild, hself]
          apply h.apart
          intro spot before after hbecomes
          have hspot := happart _ before after ⟨spot, rfl, hbecomes⟩
          exact ⟨fun hpath => hspot.1 (List.cons_prefix_cons.mpr ⟨rfl, hpath⟩),
            fun hpath => hspot.2 (List.cons_prefix_cons.mpr ⟨rfl, hpath⟩)⟩
        · rw [step?_replaceStep_of_ne hother]
  · rintro place last rest before after ⟨below, hplace, hbecomes⟩
    cases place with
    | nil => exact ⟨v, _, rfl, rfl, replaceStep_sameShape hchild changed⟩
    | cons first place =>
        obtain ⟨rfl, rfl⟩ := List.cons.inj hplace
        rw [descend?_cons, descend?_cons, hchild, hself]
        exact h.above hbecomes
  · intro hnone
    apply hidle
    intro rest before after hbecomes
    exact hnone _ before after ⟨rest, rfl, hbecomes⟩

theorem modify {f : Json → Json} {becomes : Json → Place → Json → Json → Prop}
    (hf : ∀ v, ChangedAt (becomes v) v (f v)) (v : Json) (steps : List Step) :
    ChangedAt (fun place before after => ∃ reached rest, v.descend? steps = some reached ∧
      place = steps ++ rest ∧ becomes reached rest before after) v (v.modify f steps) := by
  induction steps generalizing v with
  | nil =>
      apply (hf v).congr
      intro place before after
      simp
  | cons step steps ih =>
      cases hchild : v.step? step with
      | none =>
          rw [modify_of_none hchild]
          refine ⟨?_, fun _ => rfl, ?_, fun _ => rfl⟩
          · rintro _ _ _ ⟨reached, rest, hreached, -⟩
            simp [descend?_cons, hchild] at hreached
          · rintro _ _ _ _ _ ⟨reached, rest, hreached, -⟩
            simp [descend?_cons, hchild] at hreached
      | some child =>
          rw [modify_of_some hchild]
          apply (below hchild (ih child)).congr
          intro place before after
          rw [descend?_cons, hchild]
          constructor
          · rintro ⟨_, rfl, reached, rest, hreached, rfl, hbecomes⟩
            exact ⟨reached, rest, hreached, rfl, hbecomes⟩
          · rintro ⟨reached, rest, hreached, rfl, hbecomes⟩
            exact ⟨_, rfl, reached, rest, hreached, rfl, hbecomes⟩

end ChangedAt

/-- What a path does with a change of one step: it makes the change in the containers that
it addresses. -/
theorem alter?_changedAt (one : Json → Step → Option Json) (v : Json) (path : Path) :
    ChangedAt (fun place before after => path.Addresses v place before ∧
        one before path.target.step = some after) v
      ((v.alter? (path.target.change? one) path.parents).getD v) := by
  rw [alter?_getD]
  have htarget : ∀ w : Json, ChangedAt (fun place before after =>
      path.target.Addresses w place before ∧ one before path.target.step = some after) w
      ((path.target.change? one w).getD w) := by
    intro w
    rw [Target.change?_getD]
    cases hwildcard : path.target.isWildcard with
    | false =>
        apply (ChangedAt.root (one · path.target.step) w).congr
        intro place before after
        constructor
        · rintro ⟨rfl, rfl, hafter⟩
          exact ⟨.itself hwildcard, hafter⟩
        · rintro ⟨haddresses, hafter⟩
          cases haddresses with
          | itself => exact ⟨rfl, rfl, hafter⟩
          | element hwild => cases hwildcard.symm.trans hwild
    | true =>
        apply (ChangedAt.items (one · path.target.step) w).congr
        intro place before after
        constructor
        · rintro ⟨j, rfl, hitem, hafter⟩
          cases w with
          | arr items => exact ⟨.element hwildcard hitem, hafter⟩
          | _ => cases hitem
        · rintro ⟨haddresses, hafter⟩
          cases haddresses with
          | itself hone => cases hwildcard.symm.trans hone
          | element _ hitem => exact ⟨_, rfl, hitem, hafter⟩
  apply (ChangedAt.modify htarget v path.parents).congr
  intro place before after
  constructor
  · rintro ⟨reached, below, hreached, rfl, haddresses, hafter⟩
    exact ⟨⟨reached, below, hreached, haddresses, rfl⟩, hafter⟩
  · rintro ⟨⟨reached, below, hreached, haddresses, rfl⟩, hafter⟩
    exact ⟨reached, below, hreached, rfl, haddresses, hafter⟩

end Json

end HttpScenario
