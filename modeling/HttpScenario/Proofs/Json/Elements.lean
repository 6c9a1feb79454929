import HttpScenario.Proofs.Json.PathLaws

namespace HttpScenario

/-! Elements that are erased one after the other. Whatever stands behind an erased one moves
up, so that a place that comes later need not hold what it held before. -/

namespace Elements

variable {α : Type} {items : List α} {places : List Nat} {n : Nat}

def leaveOut (gone : Nat → Bool) : List α → List α
  | [] => []
  | item :: items =>
      if gone 0 then leaveOut (fun j => gone (j + 1)) items
      else item :: leaveOut (fun j => gone (j + 1)) items

theorem mem_of_mem_leaveOut {gone : Nat → Bool} {item : α} (h : item ∈ leaveOut gone items) :
    item ∈ items := by
  induction items generalizing gone with
  | nil => exact h
  | cons first items ih =>
      rw [leaveOut] at h
      split at h
      · exact List.mem_cons_of_mem _ (ih h)
      · rcases List.mem_cons.mp h with rfl | h
        · exact List.mem_cons_self
        · exact List.mem_cons_of_mem _ (ih h)

theorem leaveOut_false (items : List α) : leaveOut (fun _ => false) items = items := by
  induction items with
  | nil => rfl
  | cons item items ih => exact congrArg (item :: ·) ih

theorem leaveOut_congr {gone gone' : Nat → Bool} (h : ∀ j < items.length, gone j = gone' j) :
    leaveOut gone items = leaveOut gone' items := by
  induction items generalizing gone gone' with
  | nil => rfl
  | cons item items ih =>
      have hrest := ih fun j hj => h (j + 1) (Nat.succ_lt_succ hj)
      rw [leaveOut, leaveOut, h 0 (Nat.succ_pos _), hrest]

theorem leaveOut_cons_of_gone {gone : Nat → Bool} (h : gone 0 = true) (item : α)
    (items : List α) : leaveOut gone (item :: items) = leaveOut (fun j => gone (j + 1)) items :=
  if_pos h

theorem leaveOut_cons_of_kept {gone : Nat → Bool} (h : gone 0 = false) (item : α)
    (items : List α) :
    leaveOut gone (item :: items) = item :: leaveOut (fun j => gone (j + 1)) items :=
  if_neg (by simp [h])

theorem eq_of_leaveOut_eq {gone gone' : Nat → Bool} (hdifferent : items.Nodup)
    (h : leaveOut gone items = leaveOut gone' items) : ∀ j < items.length, gone j = gone' j := by
  induction items generalizing gone gone' with
  | nil => exact fun j hj => absurd hj (Nat.not_lt_zero j)
  | cons item items ih =>
      obtain ⟨hfresh, hrest⟩ := List.nodup_cons.mp hdifferent
      have hnot : ∀ others gone, item :: others ≠ leaveOut gone items := fun others gone heq =>
        hfresh (mem_of_mem_leaveOut (heq ▸ List.mem_cons_self))
      have hsplit : gone 0 = gone' 0 ∧ leaveOut (fun j => gone (j + 1)) items =
          leaveOut (fun j => gone' (j + 1)) items := by
        cases hgone : gone 0 with
        | true =>
            rw [leaveOut_cons_of_gone hgone] at h
            cases hgone' : gone' 0 with
            | true => exact ⟨rfl, h.trans (leaveOut_cons_of_gone hgone' item items)⟩
            | false => exact absurd (leaveOut_cons_of_kept hgone' item items ▸ h.symm) (hnot _ _)
        | false =>
            rw [leaveOut_cons_of_kept hgone] at h
            cases hgone' : gone' 0 with
            | true => exact absurd (h.trans (leaveOut_cons_of_gone hgone' item items)) (hnot _ _)
            | false =>
                have hcons := h.trans (leaveOut_cons_of_kept hgone' item items)
                exact ⟨rfl, List.tail_eq_of_cons_eq hcons⟩
      intro j hj
      cases j with
      | zero => exact hsplit.1
      | succ j => exact ih hrest hsplit.2 j (Nat.lt_of_succ_lt_succ hj)

/-- Whether the item at a place is lost when the items at some places are erased one after
the other: it moves up when one before it is erased. -/
def lost : List Nat → Nat → Bool
  | [], _ => false
  | i :: places, j =>
      if j < i then lost places j else if j = i then true else lost places (j - 1)

theorem lost_of_lt {i j : Nat} (h : j < i) (places : List Nat) :
    lost (i :: places) j = lost places j :=
  if_pos h

theorem lost_self (i : Nat) (places : List Nat) : lost (i :: places) i = true := by
  rw [lost, if_neg (Nat.lt_irrefl i), if_pos rfl]

theorem lost_succ_of_le {i j : Nat} (h : i ≤ j) (places : List Nat) :
    lost (i :: places) (j + 1) = lost places j := by
  rw [lost, if_neg (by omega), if_neg (by omega), Nat.add_sub_cancel]

theorem leaveOut_eraseIdx (i : Nat) (places : List Nat) (items : List α) :
    leaveOut (lost places) (items.eraseIdx i) = leaveOut (lost (i :: places)) items := by
  suffices h : ∀ (gone gone' : Nat → Bool), (∀ j < i, gone' j = gone j) → gone' i = true →
      (∀ j, i ≤ j → gone' (j + 1) = gone j) →
        leaveOut gone (items.eraseIdx i) = leaveOut gone' items from
    h _ _ (fun j hj => lost_of_lt hj places) (lost_self i places)
      (fun j hj => lost_succ_of_le hj places)
  induction items generalizing i with
  | nil => exact fun _ _ _ _ _ => rfl
  | cons item items ih =>
      intro gone gone' hbefore hself hbehind
      cases i with
      | zero =>
          have hrest : (fun j => gone' (j + 1)) = gone :=
            funext fun j => hbehind j (Nat.zero_le j)
          rw [List.eraseIdx_cons_zero, leaveOut, hself, if_pos rfl, hrest]
      | succ i =>
          have hrest := ih i (fun j => gone (j + 1)) (fun j => gone' (j + 1))
            (fun j hj => hbefore (j + 1) (Nat.succ_lt_succ hj)) hself
            (fun j hj => hbehind (j + 1) (Nat.succ_le_succ hj))
          rw [List.eraseIdx_cons_succ, leaveOut, leaveOut, hbefore 0 (Nat.succ_pos i), hrest]

theorem countP_lost_of_le {i t : Nat} (h : t ≤ i) (places : List Nat) :
    (List.range t).countP (lost (i :: places)) = (List.range t).countP (lost places) := by
  apply List.countP_congr
  intro j hj
  rw [lost_of_lt (Nat.lt_of_lt_of_le (List.mem_range.mp hj) h)]

theorem countP_lost_succ {i t : Nat} (h : i ≤ t) (places : List Nat) :
    (List.range (t + 1)).countP (lost (i :: places)) =
      (List.range t).countP (lost places) + 1 := by
  induction t, h using Nat.le_induction with
  | base =>
      rw [List.range_succ, List.countP_append, countP_lost_of_le (Nat.le_refl i)]
      simp [lost_self]
  | succ t hle ih =>
      rw [List.range_succ, List.countP_append, ih, List.range_succ, List.countP_append]
      simp only [List.countP_singleton, lost_succ_of_le hle]
      omega

theorem countP_lt_succ (places : List Nat) (t : Nat) :
    places.countP (· < t + 1) = places.countP (· < t) + places.count t := by
  induction places with
  | nil => rfl
  | cons i places ih =>
      rw [List.countP_cons, List.countP_cons, List.count_cons, ih]
      by_cases hlt : i < t
      · have hne : i ≠ t := by omega
        simp [hlt, hne, Nat.lt_succ_of_lt hlt]
        omega
      · by_cases heq : i = t
        · simp [heq]
          omega
        · have hge : ¬ i < t + 1 := by omega
          simp [hlt, heq, hge]

theorem countP_lost_le (places : List Nat) (t : Nat) :
    (List.range t).countP (lost places) ≤ places.countP (· < t) := by
  induction places generalizing t with
  | nil =>
      have hnone : (List.range t).countP (lost []) = 0 := by simp [lost]
      omega
  | cons i places ih =>
      rw [List.countP_cons]
      rcases Nat.lt_or_ge i t with hlt | hle
      · obtain ⟨s, rfl⟩ := Nat.exists_eq_add_of_lt hlt
        have hbefore := ih (i + s)
        have hmore := countP_lt_succ places (i + s)
        rw [countP_lost_succ (Nat.le_add_right i s)]
        simp only [hlt, decide_true, if_true]
        omega
      · rw [countP_lost_of_le hle]
        exact Nat.le_trans (ih t) (Nat.le_add_right _ _)

section Counted

variable {i : Nat}
  (h : ∀ t ≤ n, (List.range t).countP (lost (i :: places)) = (i :: places).countP (· < t))

include h

theorem lt_of_countP_lost {j : Nat} (hj : j ∈ places) (hjn : j < n) : j < i := by
  by_contra hle
  have hcount := h (j + 1) hjn
  have hbound := countP_lost_le places j
  have hmore := countP_lt_succ places j
  have hthere := List.count_pos_iff.mpr hj
  have hlt : i < j + 1 := by omega
  rw [countP_lost_succ (Nat.le_of_not_lt hle), List.countP_cons] at hcount
  simp only [hlt, decide_true, if_true] at hcount
  omega

theorem countP_lost_tail {t : Nat} (ht : t ≤ n) (hmore : t < n ∨ n ≤ i) :
    (List.range t).countP (lost places) = places.countP (· < t) := by
  rcases Nat.lt_or_ge i t with hit | hti
  · have htn : t < n := by omega
    have hcount := h (t + 1) htn
    have hnone : places.count t = 0 := by
      apply List.count_eq_zero_of_not_mem
      exact fun hmem => Nat.lt_asymm hit (lt_of_countP_lost h hmem htn)
    have hlt : i < t + 1 := by omega
    rw [countP_lost_succ (Nat.le_of_lt hit), List.countP_cons, countP_lt_succ, hnone] at hcount
    simp only [hlt, decide_true, if_true] at hcount
    omega
  · have hcount := h t ht
    have hge : ¬ i < t := by omega
    rw [countP_lost_of_le hti, List.countP_cons] at hcount
    simpa [hge] using hcount

end Counted

/-- If as many of the first items are lost as there are places among them, however many one
takes, the places are in descending order as far as there are items. -/
theorem descending_of_countP_lost (h : ∀ t ≤ n,
    (List.range t).countP (lost places) = places.countP (· < t)) :
    (places.filter (· < n)).Pairwise (· > ·) := by
  induction places generalizing n with
  | nil => exact List.Pairwise.nil
  | cons i places ih =>
      by_cases hi : i < n
      · have hsame : places.filter (· < n) = places.filter (· < n - 1) := by
          apply List.filter_congr
          intro j hj
          have hji := lt_of_countP_lost h hj
          simp only [decide_eq_decide]
          omega
        rw [List.filter_cons_of_pos (by simpa using hi), List.pairwise_cons]
        constructor
        · intro j hj
          obtain ⟨hmem, hjn⟩ := List.mem_filter.mp hj
          exact lt_of_countP_lost h hmem (of_decide_eq_true hjn)
        · rw [hsame]
          exact ih fun t ht => countP_lost_tail h (by omega) (.inl (by omega))
      · rw [List.filter_cons_of_neg (by simpa using hi)]
        exact ih fun t ht => countP_lost_tail h ht (.inr (Nat.le_of_not_lt hi))

theorem countP_lost_of_mem (hdistinct : places.Nodup)
    (h : ∀ j < n, lost places j = decide (j ∈ places)) :
    ∀ t ≤ n, (List.range t).countP (lost places) = places.countP (· < t) := by
  intro t ht
  induction t with
  | zero => simp
  | succ t ih =>
      rw [List.range_succ, List.countP_append, ih (Nat.le_of_succ_le ht), countP_lt_succ,
        hdistinct.count, List.countP_singleton, h t ht]
      simp

theorem lost_of_descending (h : (places.filter (· < n)).Pairwise (· > ·)) :
    ∀ j < n, lost places j = decide (j ∈ places) := by
  induction places with
  | nil => exact fun _ _ => rfl
  | cons i places ih =>
      intro j hj
      have hrest : (places.filter (· < n)).Pairwise (· > ·) :=
        h.sublist ((List.sublist_cons_self i places).filter _)
      rcases Nat.lt_trichotomy j i with hlt | rfl | hgt
      · have hne : j ≠ i := Nat.ne_of_lt hlt
        rw [lost_of_lt hlt, ih hrest j hj]
        simp [hne]
      · rw [lost_self]
        simp
      · obtain ⟨j, rfl⟩ := Nat.exists_eq_succ_of_ne_zero (Nat.ne_zero_of_lt hgt)
        rw [List.filter_cons_of_pos (by simp; omega), List.pairwise_cons] at h
        have hbelow : ∀ k ∈ places, k < n → k < i := fun k hk hkn =>
          h.1 k (List.mem_filter.mpr ⟨hk, decide_eq_true hkn⟩)
        have hnot : j ∉ places := fun hmem => by
          have hji := hbelow j hmem (by omega)
          omega
        have hnot' : j + 1 ∉ places := fun hmem => by
          have hji := hbelow (j + 1) hmem hj
          omega
        have hne : j + 1 ≠ i := Nat.ne_of_gt hgt
        rw [lost_succ_of_le (Nat.le_of_lt_succ hgt), ih hrest j (by omega)]
        simp [hnot, hnot', hne]

/-- Exactly the items at distinct places are lost if the places are in descending order, as
far as there are items, and only then. -/
theorem lost_iff_descending (hdistinct : places.Nodup) :
    (∀ j < n, lost places j = decide (j ∈ places)) ↔
      (places.filter (· < n)).Pairwise (· > ·) :=
  ⟨fun h => descending_of_countP_lost (countP_lost_of_mem hdistinct h), lost_of_descending⟩

end Elements

namespace Json

variable {v : Json} {items : List Json} {steps : List Step}

def leaveOut (gone : Nat → Bool) : Json → Json
  | .arr items => .arr (Elements.leaveOut gone items)
  | v => v

/-- A document whose array at the end of some steps is without the elements at some places. -/
def lacking (v : Json) (steps : List Step) (gone : Nat → Bool) : Json :=
  v.modify (leaveOut gone) steps

theorem lacking_false (v : Json) (steps : List Step) : v.lacking steps (fun _ => false) = v := by
  apply modify_eq_self
  intro reached _
  cases reached with
  | arr items => exact congrArg Json.arr (Elements.leaveOut_false items)
  | _ => rfl

theorem removeOne?_index_leaveOut (i : Nat) (places : List Nat) (v : Json) :
    leaveOut (Elements.lost places) ((Target.removeOne? v (.index i)).getD v) =
      leaveOut (Elements.lost (i :: places)) v := by
  cases v with
  | arr items =>
      rw [removeOne?_index_getD]
      exact congrArg Json.arr (Elements.leaveOut_eraseIdx i places items)
  | _ => rfl

theorem without_lacking {path : Path} {i : Nat} (htarget : path.target = .index i)
    (places : List Nat) (v : Json) :
    (v.without path).lacking path.parents (Elements.lost places) =
      v.lacking path.parents (Elements.lost (i :: places)) := by
  rw [without, remove?, alter?_getD, htarget, lacking, lacking, modify_modify]
  exact congrArg (v.modify · path.parents)
    (funext fun w => removeOne?_index_leaveOut i places w)

/-- Two ways to leave out elements of the array that steps lead to make the same document if
they do the same to the array, and only then. -/
theorem lacking_eq_iff (hitems : v.descend? steps = some (.arr items))
    (gone gone' : Nat → Bool) :
    v.lacking steps gone = v.lacking steps gone' ↔
      Elements.leaveOut gone items = Elements.leaveOut gone' items := by
  constructor
  · intro h
    have hreached := congrArg (·.descend? steps) h
    simp only [lacking, descend?_modify_self, hitems, Option.map_some] at hreached
    exact Json.arr.inj (Option.some.inj hreached)
  · intro h
    apply modify_congr
    intro reached hreached
    cases hitems.symm.trans hreached
    exact congrArg Json.arr h

end Json

end HttpScenario
