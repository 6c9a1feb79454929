import HttpScenario.Text.Replace
import Mathlib.Data.List.Infix

namespace HttpScenario.Text

variable {part new : List Char}

theorem replaceAfter_append (front rest : List Char) :
    replaceAfter part new front.length (front ++ rest) = replaceAll part new rest := by
  induction front with
  | nil => rfl
  | cons c front ih => exact ih

@[simp] theorem replaceAll_nil : replaceAll part new [] = [] := rfl

theorem replaceAll_cons {c : Char} {cs : List Char} (h : ¬ part <+: c :: cs) :
    replaceAll part new (c :: cs) = c :: replaceAll part new cs := by
  rw [replaceAll, replaceAfter, if_neg (by simpa using h)]
  rfl

theorem replaceAll_part_append (hne : part ≠ []) (rest : List Char) :
    replaceAll part new (part ++ rest) = new ++ replaceAll part new rest := by
  cases part with
  | nil => exact absurd rfl hne
  | cons c part =>
      rw [replaceAll, List.cons_append, replaceAfter, if_pos (by simp), List.length_cons,
        Nat.add_sub_cancel, replaceAfter_append]

/-- A text is read by steps over one character that does not begin the part, and by steps over
the whole part. -/
theorem part_induction (hne : part ≠ []) {motive : List Char → Prop} (nil : motive [])
    (keep : ∀ c cs, ¬ part <+: c :: cs → motive cs → motive (c :: cs))
    (put : ∀ cs, motive cs → motive (part ++ cs)) (cs : List Char) : motive cs := by
  induction hlength : cs.length using Nat.strongRecOn generalizing cs with
  | ind n ih =>
      by_cases h : part <+: cs
      · obtain ⟨rest, rfl⟩ := h
        have hpos := List.length_pos_iff.mpr hne
        rw [List.length_append] at hlength
        exact put rest (ih rest.length (by omega) rest rfl)
      · cases cs with
        | nil => exact nil
        | cons c cs => exact keep c cs h (ih cs.length (by simp [← hlength]) cs rfl)

theorem replaceAll_append_of_kept {front rest : List Char}
    (hkept : ∀ tail, tail <:+ front → tail ≠ [] → ¬ part <+: tail ++ rest) :
    replaceAll part new (front ++ rest) = front ++ replaceAll part new rest := by
  induction front with
  | nil => rfl
  | cons c front ih =>
      have hfirst : ¬ part <+: c :: (front ++ rest) :=
        hkept _ (List.suffix_refl _) (List.cons_ne_nil c front)
      rw [List.cons_append, replaceAll_cons hfirst,
        ih fun tail htail => hkept tail (htail.trans (List.suffix_cons c front))]
      rfl

theorem replaceAll_of_lacks {cs : List Char} (h : ¬ part <:+: cs) :
    replaceAll part new cs = cs := by
  have hkept : replaceAll part new (cs ++ []) = cs ++ replaceAll part new [] := by
    apply replaceAll_append_of_kept
    intro tail htail _ hpart
    rw [List.append_nil] at hpart
    exact h (hpart.isInfix.trans htail.isInfix)
  simpa using hkept

theorem replaceAll_append {rest : List Char} (hne : part ≠ [])
    (hapart : ∀ tail, tail <:+ part → tail ≠ [] → tail ≠ part → ¬ tail <+: rest)
    (front : List Char) :
    replaceAll part new (front ++ rest) =
      replaceAll part new front ++ replaceAll part new rest := by
  induction front using part_induction hne with
  | nil => rfl
  | keep c cs h ih =>
      have hkept : ¬ part <+: c :: (cs ++ rest) := by
        intro hpart
        rw [← List.cons_append] at hpart
        rcases List.prefix_or_prefix_of_prefix hpart (List.prefix_append _ rest) with hin | hover
        · exact h hin
        · -- The part would reach over the boundary with an end that begins what follows.
          obtain ⟨tail, rfl⟩ := hover
          have htail : tail <+: rest := (List.prefix_append_right_inj (c :: cs)).mp hpart
          refine hapart tail (List.suffix_append _ tail) ?_ ?_ htail
          · intro hnil
            exact h (by rw [hnil, List.append_nil])
          · intro hall
            exact List.cons_ne_nil c cs (List.self_eq_append_left.mp hall)
      rw [List.cons_append, replaceAll_cons hkept, replaceAll_cons h, ih]
      rfl
  | put cs ih =>
      rw [List.append_assoc, replaceAll_part_append hne, replaceAll_part_append hne, ih,
        List.append_assoc]

theorem length_replaceAll (hne : part ≠ []) (new cs : List Char) :
    (new.length ≤ part.length → (replaceAll part new cs).length ≤ cs.length) ∧
      (part.length ≤ new.length → cs.length ≤ (replaceAll part new cs).length) := by
  induction cs using part_induction hne with
  | nil => simp
  | keep c cs h ih =>
      rw [replaceAll_cons h]
      simpa using ih
  | put cs ih =>
      rw [replaceAll_part_append hne]
      simp only [List.length_append]
      omega

theorem replaceAll_same (hne : part ≠ []) (cs : List Char) : replaceAll part part cs = cs := by
  induction cs using part_induction hne with
  | nil => rfl
  | keep c cs h ih => rw [replaceAll_cons h, ih]
  | put cs ih => rw [replaceAll_part_append hne, ih]

theorem replaceAll_eq_self_iff (hne : part ≠ []) {cs : List Char} :
    replaceAll part new cs = cs ↔ new = part ∨ ¬ part <:+: cs := by
  constructor
  · intro h
    by_cases hnew : new = part
    · exact .inl hnew
    · refine .inr ?_
      induction cs using part_induction hne with
      | nil => simpa using hne
      | keep c cs hfirst ih =>
          rw [replaceAll_cons hfirst, List.cons_inj_right] at h
          rw [List.infix_cons_iff, not_or]
          exact ⟨hfirst, ih h⟩
      | put cs ih =>
          rw [replaceAll_part_append hne] at h
          have hlength := congrArg List.length h
          have hbound := length_replaceAll hne new cs
          simp only [List.length_append] at hlength
          exact absurd (List.append_inj_left h (by omega)) hnew
  · intro h
    rcases h with rfl | h
    · exact replaceAll_same hne cs
    · exact replaceAll_of_lacks h

end HttpScenario.Text
