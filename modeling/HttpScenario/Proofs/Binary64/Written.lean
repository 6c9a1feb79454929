import HttpScenario.Binary64.Shortest
import HttpScenario.Proofs.Json.NumberText
import Mathlib.Data.List.TakeWhile

namespace HttpScenario.Binary64

open Json

theorem units_pos {code : Nat} (h : 0 < code) : 0 < units code := by
  rw [units]
  split
  · exact h
  · exact Nat.mul_pos (Nat.add_pos_left (Nat.pow_pos (by decide)) _) (Nat.pow_pos (by decide))

theorem natPow_pos {base : Nat} (h : 0 < base) (exponent : Nat) : 0 < Nat.pow base exponent :=
  Nat.pow_pos h

theorem mul_natPow_pos {a b : Nat} (ha : 0 < a) (hb : 0 < b) (m n : Nat) :
    0 < Nat.pow a m * Nat.pow b n :=
  Nat.mul_pos (natPow_pos ha m) (natPow_pos hb n)

theorem gridOf_pos (place : Nat) : 0 < gridOf place := by
  unfold gridOf
  apply mul_natPow_pos
  · decide
  · decide

theorem twoPow_le_mul_tenPow {u m n : Nat} (hu : 0 < u) (k : Nat) (hm : m ≤ 43 * k)
    (hn : 13 * k ≤ n) : Nat.pow 2 m ≤ u * Nat.pow 10 n := by
  calc
    2 ^ m ≤ 2 ^ (43 * k) := Nat.pow_le_pow_right (by decide) hm
    _ = (2 ^ 43) ^ k := Nat.pow_mul 2 43 k
    _ ≤ (10 ^ 13) ^ k := Nat.pow_le_pow_left (by decide) k
    _ = 10 ^ (13 * k) := (Nat.pow_mul 10 13 k).symm
    _ ≤ 10 ^ n := Nat.pow_le_pow_right (by decide) hn
    _ ≤ u * 10 ^ n := Nat.le_mul_of_pos_left _ hu

theorem doubled_ge {code : Nat} (h : 0 < code) : Nat.pow 2 1075 ≤ doubled code := by
  have hunits : 0 < 2 * units code := by have := units_pos h; omega
  unfold doubled
  apply twoPow_le_mul_tenPow hunits 25
  · decide
  · decide

theorem tenPow_le_of_toDigits {q : Nat} (h : 0 < q) :
    Nat.pow 10 ((Nat.toDigits 10 q).length - 1) ≤ q := by
  by_cases hone : (Nat.toDigits 10 q).length - 1 = 0
  · rw [hone]
    exact h
  · apply Nat.le_of_not_lt
    intro hlt
    have hle := (Nat.length_toDigits_le_iff (by decide) (Nat.pos_of_ne_zero hone)).mpr hlt
    omega

theorem tenPow_mul_le {value unit : Nat} (hunit : 0 < unit) (hle : unit ≤ value) :
    Nat.pow 10 ((Nat.toDigits 10 (value / unit)).length - 1) * unit ≤ value :=
  (Nat.le_div_iff_mul_le hunit).mp (tenPow_le_of_toDigits (Nat.div_pos hle hunit))

theorem digits_pos_of_atPlace? {code place : Nat} {found : Decimal}
    (hgrid : gridOf place ≤ doubled code) (h : atPlace? code place = some found) :
    0 < found.digits := by
  have hbelow : 0 < doubled code / gridOf place := Nat.div_pos hgrid (gridOf_pos place)
  simp only [atPlace?] at h
  split at h
  · split at h <;> cases h
    · exact hbelow
    · exact Nat.succ_pos _
  · split at h
    · cases h
      exact hbelow
    · split at h <;> cases h
      exact Nat.succ_pos _

theorem digits_firstPlace_pos {code : Nat} (count : Nat) {place : Nat}
    (hgrid : gridOf place ≤ doubled code) : 0 < (firstPlace code count place).digits := by
  induction count generalizing place with
  | zero => exact Nat.div_pos hgrid (gridOf_pos place)
  | succ count ih =>
      rw [firstPlace]
      cases hfound : atPlace? code place with
      | some found => exact digits_pos_of_atPlace? hgrid hfound
      | none =>
          apply ih
          refine Nat.le_trans ?_ hgrid
          have hpow := Nat.pow_le_pow_right (by decide : 0 < 10) (Nat.sub_le place 1)
          exact Nat.mul_le_mul_right _ hpow

theorem digits_shortest_pos {code : Nat} (h : 0 < code) : 0 < (shortest code).digits := by
  rw [shortest]
  apply digits_firstPlace_pos
  apply tenPow_mul_le
  · apply natPow_pos
    decide
  · exact doubled_ge h

theorem digitRun_toDigits (n : Nat) : DigitRun (Nat.toDigits 10 n) :=
  ⟨Nat.toDigits_ne_nil, fun _ hc => Text.isDigit_of_mem_toDigits (by decide) (by decide) hc⟩

theorem dropTrailingZeros_eq {ds : List Char} (hds : DigitRun ds) (hfirst : ds.head? ≠ some '0') :
    DigitRun (dropTrailingZeros ds) ∧ (dropTrailingZeros ds).head? ≠ some '0' := by
  obtain ⟨kept, hkept⟩ := (List.dropWhile_suffix (l := ds.reverse) (· == '0'))
  have hsplit : ds = dropTrailingZeros ds ++ kept.reverse := by
    rw [dropTrailingZeros, ← List.reverse_append, hkept, List.reverse_reverse]
  have hne : dropTrailingZeros ds ≠ [] := by
    intro hnil
    obtain ⟨d, rest, rfl⟩ := List.exists_cons_of_ne_nil hds.1
    have hall : ∀ c ∈ (d :: rest).reverse, (c == '0') = true := by
      rw [dropTrailingZeros, List.reverse_eq_nil_iff] at hnil
      exact List.dropWhile_eq_nil_iff.mp hnil
    have hd := hall d (List.mem_reverse.mpr List.mem_cons_self)
    exact hfirst (by rw [List.head?_cons, eq_of_beq hd])
  refine ⟨⟨hne, ?_⟩, ?_⟩
  · intro c hc
    exact hds.2 c (by rw [hsplit]; exact List.mem_append_left _ hc)
  · intro hzero
    apply hfirst
    rw [hsplit, List.head?_append, hzero]
    rfl

theorem digitRun_append_zeros {ds : List Char} (hds : DigitRun ds) (n : Nat) :
    DigitRun (ds ++ List.replicate n '0') := by
  refine ⟨by simp [hds.1], ?_⟩
  intro c hc
  rcases List.mem_append.mp hc with hc | hc
  · exact hds.2 c hc
  · rw [List.eq_of_mem_replicate hc]
    decide

theorem digitRun_zeros_append {ds : List Char} (hds : DigitRun ds) (n : Nat) :
    DigitRun (List.replicate n '0' ++ ds) := by
  refine ⟨by simp [hds.1], ?_⟩
  intro c hc
  rcases List.mem_append.mp hc with hc | hc
  · rw [List.eq_of_mem_replicate hc]
    decide
  · exact hds.2 c hc

theorem wholePart_take {ds : List Char} (hds : DigitRun ds) (hfirst : ds.head? ≠ some '0')
    (e zeros : Nat) : WholePart (ds.take (e + 1) ++ List.replicate zeros '0') := by
  obtain ⟨d, rest, rfl⟩ := List.exists_cons_of_ne_nil hds.1
  refine .inr ⟨digitRun_append_zeros ⟨by simp, ?_⟩ zeros, ?_⟩
  · intro c hc
    exact hds.2 c (List.mem_of_mem_take hc)
  · simpa using hfirst

theorem floatText_pointed {whole fraction : List Char} (hwhole : WholePart whole)
    (hfraction : DigitRun fraction) : FloatText (whole ++ '.' :: fraction) := by
  have htail := FloatTail.pointed hfraction ExponentPart.absent
  rw [List.append_nil] at htail
  exact .mk hwhole htail

theorem layout_floatText {digits : List Char} (hdigits : DigitRun digits)
    (hfirst : digits.head? ≠ some '0') (exponent : Int) :
    FloatText (layout digits exponent) := by
  unfold layout
  split
  · split
    · next e _ =>
        have hfraction : DigitRun
            (if (digits.drop (e + 1)).isEmpty then ['0'] else digits.drop (e + 1)) := by
          split
          · exact ⟨by simp, List.forall_mem_singleton.mpr rfl⟩
          · next hne =>
              refine ⟨by simpa using hne, ?_⟩
              intro c hc
              exact hdigits.2 c (List.mem_of_mem_drop hc)
        exact floatText_pointed (wholePart_take hdigits hfirst e _) hfraction
    · next e _ => exact floatText_pointed (.inl rfl) (digitRun_zeros_append hdigits e)
  · have hexponent := digitRun_toDigits exponent.natAbs
    generalize Nat.toDigits 10 exponent.natAbs = ds at hexponent
    have hsign : (if exponent < 0 then '-' else '+') = '+' ∨
        (if exponent < 0 then '-' else '+') = '-' := by
      split
      · exact .inr rfl
      · exact .inl rfl
    generalize (if exponent < 0 then '-' else '+') = sign at hsign
    split
    · next first second rest =>
        have hwhole : WholePart [first] := by
          refine .inr ⟨⟨by simp, ?_⟩, hfirst⟩
          intro c hc
          exact hdigits.2 c (List.mem_singleton.mp hc ▸ List.mem_cons_self)
        have hfraction : DigitRun (second :: rest) :=
          ⟨by simp, fun c hc => hdigits.2 c (List.mem_cons_of_mem _ hc)⟩
        have htail := FloatTail.pointed hfraction (.present hsign hexponent)
        have htext := FloatText.mk hwhole htail
        exact htext
    · exact FloatText.mk (.inr ⟨hdigits, hfirst⟩) (.scientific hsign hexponent)

theorem writeMagnitude_floatText (code : Nat) : FloatText (writeMagnitude code) := by
  rw [writeMagnitude]
  split
  · exact floatText_pointed (.inl rfl) ⟨by simp, List.forall_mem_singleton.mpr rfl⟩
  · next hcode =>
      have hpos := digits_shortest_pos (Nat.pos_of_ne_zero hcode)
      have hfirst := Text.head?_toDigits_ne_zero (by decide : 1 < 10) (by decide) hpos
      obtain ⟨hdigits, hkept⟩ := dropTrailingZeros_eq (digitRun_toDigits _) hfirst
      exact layout_floatText hdigits hkept _

end HttpScenario.Binary64
