import Mathlib.Data.List.Basic
import Mathlib.Data.List.DropRight
import Mathlib.Data.List.TakeWhile

namespace HttpScenario.Text

variable {c : Char} {front front' rest rest' after : List Char} {p : Char → Bool}

theorem bne_of_not_mem (h : c ∉ front) : ∀ d ∈ front, (d != c) = true :=
  fun _ hd => bne_iff_ne.mpr (ne_of_mem_of_not_mem hd h)

theorem takeWhile_break (h : c ∉ front) (rest : List Char) :
    (front ++ c :: rest).takeWhile (· != c) = front := by
  rw [List.takeWhile_append_of_pos (bne_of_not_mem h)]
  simp

theorem dropWhile_break (h : c ∉ front) (rest : List Char) :
    (front ++ c :: rest).dropWhile (· != c) = c :: rest := by
  rw [List.dropWhile_append_of_pos (bne_of_not_mem h)]
  simp

theorem dropWhile_of_not_mem (h : c ∉ front) : front.dropWhile (· != c) = [] :=
  List.dropWhile_eq_nil_iff.mpr (bne_of_not_mem h)

theorem break_inj (h : c ∉ front) (h' : c ∉ front')
    (heq : front ++ c :: rest = front' ++ c :: rest') : front = front' ∧ rest = rest' := by
  have hfront : front = front' := by
    rw [← takeWhile_break h rest, heq, takeWhile_break h' rest']
  subst hfront
  exact ⟨rfl, (List.cons.inj (List.append_cancel_left heq)).2⟩

theorem rdropWhile_append_of_pos (h : ∀ d ∈ after, p d = true) (front : List Char) :
    (front ++ after).rdropWhile p = front.rdropWhile p := by
  have hreverse : ∀ d ∈ after.reverse, p d = true := fun d hd => h d (List.mem_reverse.mp hd)
  rw [List.rdropWhile, List.reverse_append, List.dropWhile_append_of_pos hreverse]
  rfl

end HttpScenario.Text
