import HttpScenario.Text.Digit

namespace HttpScenario.Text

theorem toNat_toLower (c : Char) :
    c.toLower.toNat = if 65 ≤ c.toNat ∧ c.toNat ≤ 90 then c.toNat + 32 else c.toNat := by
  have hupper : (c.val ≥ 'A'.val ∧ c.val ≤ 'Z'.val) ↔ (65 ≤ c.toNat ∧ c.toNat ≤ 90) := Iff.rfl
  unfold Char.toLower
  split
  · next h =>
      have hle : c.val.toNat ≤ 90 := (hupper.mp h).2
      rw [if_pos (hupper.mp h)]
      change (c.val + ('a'.val - 'A'.val)).toNat = c.val.toNat + 32
      rw [UInt32.toNat_add]
      change (c.val.toNat + 32) % 2 ^ 32 = c.val.toNat + 32
      omega
  · next h => rw [if_neg (mt hupper.mpr h)]

theorem digit?_ten (c : Char) :
    digit? 10 c = if c.isDigit then some (c.toNat - '0'.toNat) else none := by
  have hdigit : c.isDigit = true ↔ 48 ≤ c.toNat ∧ c.toNat ≤ 57 := by
    unfold Char.isDigit
    rw [Bool.and_eq_true, decide_eq_true_iff, decide_eq_true_iff]
    exact Iff.rfl
  have hnumeral : ('0' ≤ c.toLower ∧ c.toLower ≤ '9') ↔
      (48 ≤ c.toLower.toNat ∧ c.toLower.toNat ≤ 57) := Iff.rfl
  have hletter : ('a' ≤ c.toLower ∧ c.toLower ≤ 'f') ↔
      (97 ≤ c.toLower.toNat ∧ c.toLower.toNat ≤ 102) := Iff.rfl
  have hzero : '0'.toNat = 48 := rfl
  unfold digit? hexDigit?
  simp only [hdigit, hnumeral, hletter, toNat_toLower, hzero]
  grind

theorem digitsValueFrom?_ten (value : Nat) (cs : List Char) :
    digitsValueFrom? 10 value cs =
      if cs.all Char.isDigit then some (Nat.ofDigitChars 10 cs value) else none := by
  induction cs generalizing value with
  | nil => rfl
  | cons c cs ih =>
      rw [digitsValueFrom?, digit?_ten, List.all_cons, Nat.ofDigitChars_cons]
      cases c.isDigit with
      | false => rfl
      | true => simpa [Nat.mul_comm] using ih (value * 10 + (c.toNat - '0'.toNat))

theorem isDigit_digitChar {radix n : Nat} (hradix : radix ≤ 16) (h : n < radix) :
    isDigit radix (Nat.digitChar n) = true := by
  rw [isDigit, digit?_digitChar hradix h]
  rfl

theorem digitsValueFrom?_append (radix value : Nat) (cs ds : List Char) :
    digitsValueFrom? radix value (cs ++ ds) =
      (digitsValueFrom? radix value cs).bind (digitsValueFrom? radix · ds) := by
  induction cs generalizing value with
  | nil => rfl
  | cons c cs ih =>
      simp only [List.cons_append, digitsValueFrom?]
      cases digit? radix c with
      | none => rfl
      | some d => exact ih _

theorem le_of_digitsValueFrom? {radix value result : Nat} {cs : List Char}
    (hradix : 0 < radix) (h : digitsValueFrom? radix value cs = some result) :
    value ≤ result := by
  induction cs generalizing value with
  | nil => exact Nat.le_of_eq (Option.some.inj h)
  | cons c cs ih =>
      rw [digitsValueFrom?] at h
      cases hd : digit? radix c with
      | none => simp [hd] at h
      | some d =>
          rw [hd] at h
          have hle : value ≤ value * radix := Nat.le_mul_of_pos_right value hradix
          have hnext := ih h
          omega

theorem digitsValue?_toDigits {radix : Nat} (hradix : 1 < radix) (hle : radix ≤ 16) (n : Nat) :
    digitsValue? radix (Nat.toDigits radix n) = some n := by
  induction n using Nat.strongRecOn with
  | _ n ih =>
      by_cases hn : n < radix
      · rw [Nat.toDigits_of_lt_base hn]
        simp [digitsValue?, digitsValueFrom?, digit?_digitChar hle hn]
      · have hbase : radix ≤ n := Nat.le_of_not_lt hn
        have hdiv : n / radix < n := Nat.div_lt_self (by omega) hradix
        have hmod : n % radix < radix := Nat.mod_lt n (by omega)
        have hhead : digitsValueFrom? radix 0 (Nat.toDigits radix (n / radix)) =
            some (n / radix) := ih (n / radix) hdiv
        rw [Nat.toDigits_of_base_le hradix hbase, digitsValue?, digitsValueFrom?_append, hhead]
        simp only [Option.bind_some, digitsValueFrom?, digit?_digitChar hle hmod]
        rw [Nat.div_add_mod']

theorem isDigit_of_mem_toDigits {radix n : Nat} (hradix : 1 < radix) (hle : radix ≤ 16)
    {c : Char} (h : c ∈ Nat.toDigits radix n) : isDigit radix c = true := by
  induction n using Nat.strongRecOn with
  | _ n ih =>
      by_cases hn : n < radix
      · rw [Nat.toDigits_of_lt_base hn, List.mem_singleton] at h
        rw [h]
        exact isDigit_digitChar hle hn
      · rw [Nat.toDigits_of_base_le hradix (Nat.le_of_not_lt hn)] at h
        rcases List.mem_append.mp h with h | h
        · exact ih (n / radix) (Nat.div_lt_self (by omega) hradix) h
        · rw [List.mem_singleton] at h
          rw [h]
          exact isDigit_digitChar hle (Nat.mod_lt n (by omega))

theorem head?_toDigits_ne_zero {radix n : Nat} (hradix : 1 < radix) (hle : radix ≤ 16)
    (hn : 0 < n) : (Nat.toDigits radix n).head? ≠ some '0' := by
  induction n using Nat.strongRecOn with
  | _ n ih =>
      by_cases hlt : n < radix
      · rw [Nat.toDigits_of_lt_base hlt]
        intro hzero
        have hchar : Nat.digitChar n = '0' := by simpa using hzero
        have hdigit : hexDigit? (Nat.digitChar n) = some n := hexDigit?_digitChar (by omega)
        rw [hchar] at hdigit
        have hvalue : hexDigit? '0' = some 0 := by decide
        rw [hvalue] at hdigit
        exact absurd (Option.some.inj hdigit) (by omega)
      · have hfirst := ih (n / radix) (Nat.div_lt_self hn hradix)
          (Nat.div_pos (Nat.le_of_not_lt hlt) (by omega))
        rw [Nat.toDigits_of_base_le hradix (Nat.le_of_not_lt hlt)]
        obtain ⟨first, rest, hdigits⟩ :=
          List.exists_cons_of_ne_nil (Nat.toDigits_ne_nil (n := n / radix) (b := radix))
        rw [hdigits] at hfirst ⊢
        exact hfirst

end HttpScenario.Text
