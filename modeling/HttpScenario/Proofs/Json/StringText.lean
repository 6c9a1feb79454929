import HttpScenario.Json.StringReader
import HttpScenario.Json.Writer

namespace HttpScenario.Json

theorem readHexWord_control {n : Nat} (h : n < 0x20) (rest : List Char) :
    readHexWord ('0' :: '0' :: Nat.digitChar (n / 16) :: Nat.digitChar (n % 16) :: rest) =
      .ok (n, rest) := by
  have hzero : Text.digit? 16 '0' = some 0 := by decide
  have hhigh : Text.digit? 16 (Nat.digitChar (n / 16)) = some (n / 16) :=
    Text.digit?_digitChar (by decide) (by omega)
  have hlow : Text.digit? 16 (Nat.digitChar (n % 16)) = some (n % 16) :=
    Text.digit?_digitChar (by decide) (by omega)
  have hvalue : (0 * 16 + 0) * 16 + n / 16 = n / 16 := by omega
  have hsum : n / 16 * 16 + n % 16 = n := Nat.div_add_mod' n 16
  simp only [readHexWord, Text.digitsValue?, Text.digitsValueFrom?, hzero, hhigh, hlow,
    Nat.zero_mul, Nat.zero_add, hsum]

theorem readCodePoint_control {c : Char} (h : c.toNat < 0x20) (rest : List Char) :
    readCodePoint
        ('0' :: '0' :: Nat.digitChar (c.toNat / 16) :: Nat.digitChar (c.toNat % 16) :: rest) =
      .ok (c, rest) := by
  have htrailing : isTrailing c.toNat = false := by
    simp only [isTrailing, Bool.and_eq_false_iff, decide_eq_false_iff_not]
    omega
  have hleading : isLeading c.toNat = false := by
    simp only [isLeading, Bool.and_eq_false_iff, decide_eq_false_iff_not]
    omega
  rw [readCodePoint, readHexWord_control h]
  change (if isTrailing c.toNat = true then _ else if isLeading c.toNat = true then _ else _) = _
  rw [htrailing, hleading, if_neg (by decide), if_neg (by decide), Char.ofNat_toNat]

theorem readCharacters_escape (limit : Nat) (read : List Char) (c : Char) (rest : List Char) :
    readCharacters (limit + 1) read (escape c ++ rest) =
      readCharacters limit (c :: read) rest := by
  unfold escape
  split
  case h_8 hquote hbackslash _ _ _ _ _ =>
    split
    · next hcontrol =>
        have hpoint := readCodePoint_control hcontrol rest
        simp only [List.cons_append, List.nil_append, readCharacters]
        rw [if_neg (by decide), if_pos trivial, readEscape, hpoint]
    · next hplain =>
        simp only [List.cons_append, List.nil_append, readCharacters]
        rw [if_neg hquote, if_neg hbackslash, if_neg hplain]
  all_goals simp [readCharacters, readEscape]

theorem readCharacters_written (s : List Char) {limit : Nat} (hlimit : s.length < limit)
    (read rest : List Char) :
    readCharacters limit read (s.flatMap escape ++ '"' :: rest) =
      .ok (String.ofList (read.reverse ++ s), rest) := by
  induction s generalizing limit read with
  | nil =>
      obtain ⟨limit, rfl⟩ := Nat.exists_eq_add_one.mpr hlimit
      simp [readCharacters]
  | cons c s ih =>
      obtain ⟨limit, rfl⟩ := Nat.exists_eq_add_one.mpr (Nat.zero_lt_of_lt hlimit)
      have hlength : s.length < limit := by simpa using hlimit
      rw [List.flatMap_cons, List.append_assoc, readCharacters_escape, ih hlength]
      simp

theorem readCharacters_writeString (s : String) {limit : Nat} (hlimit : s.toList.length < limit)
    (rest : List Char) :
    readCharacters limit [] (s.toList.flatMap escape ++ '"' :: rest) = .ok (s, rest) := by
  rw [readCharacters_written s.toList hlimit]
  simp

theorem length_writeString (s : String) : s.toList.length + 2 ≤ (writeString s).length := by
  have hone : ∀ c, 1 ≤ (escape c).length := by
    intro c
    unfold escape
    split
    case h_8 => split <;> simp
    all_goals simp
  have hall : ∀ cs : List Char, cs.length ≤ (cs.flatMap escape).length := by
    intro cs
    induction cs with
    | nil => exact Nat.le_refl 0
    | cons c cs ih =>
        have hc := hone c
        simp only [List.flatMap_cons, List.length_append, List.length_cons]
        omega
  have hs := hall s.toList
  simp only [writeString, List.length_append, List.length_cons, List.length_nil]
  omega

end HttpScenario.Json
