import HttpScenario.Proofs.Text.Break
import HttpScenario.Proofs.Text.Digits
import HttpScenario.Text.Blank
import Mathlib.Data.List.Forall2

namespace HttpScenario.Text

variable {before after cs ds : List Char} {c d : Char}

theorem trimBlanks_eq (cs : List Char) :
    trimBlanks cs = (cs.dropWhile isBlank).rdropWhile isBlank := rfl

theorem trimBlanks_padded (hbefore : ∀ c ∈ before, isBlank c = true)
    (hafter : ∀ c ∈ after, isBlank c = true) (cs : List Char) :
    trimBlanks (before ++ cs ++ after) = trimBlanks cs := by
  rw [trimBlanks_eq, trimBlanks_eq, List.append_assoc, List.dropWhile_append_of_pos hbefore,
    List.dropWhile_append]
  split
  · next hempty =>
      rw [List.isEmpty_iff.mp hempty, List.dropWhile_eq_nil_iff.mpr hafter]
  · exact rdropWhile_append_of_pos hafter _

theorem trimBlanks_of_solid (h : ∀ c ∈ cs, isBlank c = false) :
    trimBlanks cs = cs := by
  have hfirst : cs.dropWhile isBlank = cs := by
    cases cs with
    | nil => rfl
    | cons c cs => exact List.dropWhile_cons_of_neg (by simp [h c List.mem_cons_self])
  rw [trimBlanks_eq, hfirst, List.rdropWhile_eq_self_iff]
  intro hne
  simp [h _ (List.getLast_mem hne)]

theorem suffix_trimBlanks {word : List Char} (hne : word ≠ [])
    (hword : ∀ c ∈ word, isBlank c = false) (front : List Char) :
    word <:+ trimBlanks (front ++ word) := by
  have hfirst : word.dropWhile isBlank = word :=
    List.dropWhile_eq_self_iff.mpr fun hpos => by simp [hword _ (List.getElem_mem hpos)]
  obtain ⟨rest, hrest⟩ : ∃ rest, (front ++ word).dropWhile isBlank = rest ++ word := by
    rw [List.dropWhile_append, hfirst]
    split
    · exact ⟨[], rfl⟩
    · exact ⟨_, rfl⟩
  have hlast : (rest ++ word).rdropWhile isBlank = rest ++ word := by
    rw [List.rdropWhile_eq_self_iff]
    intro hall
    rw [List.getLast_append_of_ne_nil hall hne]
    simp [hword _ (List.getLast_mem hne)]
  rw [trimBlanks_eq, hrest, hlast]
  exact List.suffix_append rest word

theorem exists_padding (cs : List Char) : ∃ before after, cs = before ++ trimBlanks cs ++ after ∧
    (∀ c ∈ before, isBlank c = true) ∧ ∀ c ∈ after, isBlank c = true := by
  refine ⟨cs.takeWhile isBlank, (cs.dropWhile isBlank).rtakeWhile isBlank, ?_,
    fun c hc => List.mem_takeWhile_imp hc, fun c hc => List.mem_rtakeWhile_imp hc⟩
  rw [trimBlanks_eq, List.append_assoc, List.rdropWhile_append_rtakeWhile,
    List.takeWhile_append_dropWhile]

theorem isBlank_toLower (c : Char) : isBlank c.toLower = isBlank c := by
  rw [Bool.eq_iff_iff]
  simp only [isBlank, blankRanges, List.any_cons, List.any_nil, toNat_toLower, Bool.or_eq_true,
    Bool.and_eq_true, decide_eq_true_eq, Bool.false_eq_true, or_false]
  split <;> omega

theorem isUpper_toLower (c : Char) : c.toLower.isUpper = false := by
  have hupper : c.toLower.isUpper = true ↔ 65 ≤ c.toLower.toNat ∧ c.toLower.toNat ≤ 90 :=
    decide_eq_true_iff
  rw [Bool.eq_false_iff, Ne, hupper, toNat_toLower]
  split <;> omega

theorem isUpper_of_mem_lower {c : Char} {text : String} (h : c ∈ (lower text).toList) :
    c.isUpper = false := by
  rw [lower, String.toList_ofList] at h
  obtain ⟨d, -, rfl⟩ := List.mem_map.mp h
  exact isUpper_toLower d

theorem trimBlanks_map_toLower (cs : List Char) :
    trimBlanks (cs.map Char.toLower) = (trimBlanks cs).map Char.toLower := by
  have hblank : isBlank ∘ Char.toLower = isBlank := funext isBlank_toLower
  rw [trimBlanks, List.dropWhile_map, hblank, ← List.map_reverse, List.dropWhile_map, hblank,
    ← List.map_reverse]
  rfl

/-- The same character, or an ASCII letter as a capital and as a small one. -/
inductive SameLetter : Char → Char → Prop where
  | refl (c : Char) : SameLetter c c
  | lowered {c d : Char} (hc : 65 ≤ c.toNat ∧ c.toNat ≤ 90) (hd : d.toNat = c.toNat + 32) :
      SameLetter c d
  | raised {c d : Char} (hd : 65 ≤ d.toNat ∧ d.toNat ≤ 90) (hc : c.toNat = d.toNat + 32) :
      SameLetter c d

theorem sameLetter_iff : SameLetter c d ↔ c.toLower = d.toLower := by
  rw [← Char.toNat_inj, toNat_toLower, toNat_toLower]
  constructor
  · intro h
    cases h with
    | refl => rfl
    | lowered hc hd => rw [if_pos hc, if_neg (by omega), hd]
    | raised hd hc => rw [if_pos hd, if_neg (by omega), hc]
  · intro h
    split at h
    · next hc =>
        split at h
        · exact Char.toNat_inj.mp (Nat.add_right_cancel h) ▸ .refl c
        · exact .lowered hc h.symm
    · split at h
      · next hd => exact .raised hd h
      · exact Char.toNat_inj.mp h ▸ .refl c

theorem sameLetters_iff :
    List.Forall₂ SameLetter cs ds ↔ cs.map Char.toLower = ds.map Char.toLower := by
  rw [← List.forall₂_eq_eq_eq, List.forall₂_map_left_iff, List.forall₂_map_right_iff]
  exact ⟨.imp fun _ _ => sameLetter_iff.mp, .imp fun _ _ => sameLetter_iff.mpr⟩

theorem mem_of_sameLetters (hc : c.toNat < 65) (h : List.Forall₂ SameLetter cs ds)
    (hmem : c ∈ cs) : c ∈ ds := by
  induction h with
  | nil => exact hmem
  | cons hfirst _ ih =>
      rcases List.mem_cons.mp hmem with rfl | hmem
      · cases hfirst with
        | refl => exact List.mem_cons_self
        | lowered hupper => omega
        | raised hupper hlower => omega
      · exact List.mem_cons_of_mem _ (ih hmem)

theorem lower_eq_lower_iff {text other : String} : lower text = lower other ↔
    text.toList.map Char.toLower = other.toList.map Char.toLower :=
  String.ofList_inj

end HttpScenario.Text
