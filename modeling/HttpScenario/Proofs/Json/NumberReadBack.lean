import HttpScenario.Json.Reader
import HttpScenario.Json.Writer
import HttpScenario.Proofs.Binary64.Written
import HttpScenario.Proofs.Json.WellFormed

namespace HttpScenario

/-- The number that the text of a number is read as. An integer is read as
itself. A float need not be: the reader rounds twice. -/
def Number.readBack? : Number → Option Number
  | .int n => some (.int n)
  | .float x =>
      (Json.readNumber x.negative (Binary64.writeMagnitude x.code)).toOption.map Prod.fst

namespace Json

theorem endsNumber_nil : EndsNumber [] := fun _ h => nomatch h

theorem readNumberTail_integer {rest : List Char} (hrest : EndsNumber rest) (negative : Bool)
    (significand count : Nat) :
    readNumberTail negative ⟨significand, count, rest⟩ =
      match ofInteger negative significand with
      | .ok n => .ok (n, rest)
      | .error reason => .error (.before reason rest) := by
  have hnone : ∀ c ∈ ([] : List Char), isDigit c = true := List.forall_mem_nil _
  have htake : rest.takeWhile isDigit = [] := takeWhile_digits hnone hrest.startsWithDigit
  have hdrop : rest.dropWhile isDigit = rest := dropWhile_digits hnone hrest.startsWithDigit
  simp only [readNumberTail, htake, hdrop]
  split
  · next tail => exact absurd rfl (hrest '.' rfl).2.1
  · next tail => exact absurd rfl (hrest 'e' rfl).2.2.1
  · next tail => exact absurd rfl (hrest 'E' rfl).2.2.2
  · rfl

theorem readNumber_toDigits {n : Nat} (hn : n < 2 ^ 64) {rest : List Char}
    (hrest : EndsNumber rest) (negative : Bool) :
    readNumber negative (Nat.toDigits 10 n ++ rest) =
      match ofInteger negative n with
      | .ok n => .ok (n, rest)
      | .error reason => .error (.before reason rest) := by
  rcases Nat.eq_zero_or_pos n with rfl | hpos
  · rw [Nat.toDigits_zero, List.singleton_append, readNumber, hrest.startsWithDigit]
    exact readNumberTail_integer hrest negative 0 1
  · have hfirst := Text.head?_toDigits_ne_zero (by decide : 1 < 10) (by decide) hpos
    have hvalue := Text.digitsValue?_toDigits (by decide : 1 < 10) (by decide) n
    rw [readNumber_digits negative (Binary64.digitRun_toDigits n) hfirst,
      gather_digitsValueFrom 0 hvalue hn hrest.startsWithDigit]
    exact readNumberTail_integer hrest negative n _

theorem readScalar_digit {c : Char} (hc : isDigit c = true) (limit : Nat) (rest : List Char) :
    readScalar limit (c :: rest) =
      match readNumber false (c :: rest) with
      | .ok (n, rest) => .ok (.num n, rest)
      | .error stop => .error stop := by
  unfold readScalar
  split
  case h_7 heq =>
    obtain ⟨rfl, rfl⟩ := List.cons.inj heq
    exact if_pos hc
  case h_1 heq => cases heq
  all_goals
    next heq =>
      obtain ⟨rfl, -⟩ := List.cons.inj heq
      exact absurd hc (by decide)

theorem readScalar_minus (limit : Nat) (rest : List Char) :
    readScalar limit ('-' :: rest) =
      match readNumber true rest with
      | .ok (n, rest) => .ok (.num n, rest)
      | .error stop => .error stop := rfl

theorem FloatText.digit {text : List Char} (h : FloatText text) :
    ∃ c rest, text = c :: rest ∧ isDigit c = true := by
  obtain ⟨hwhole, htail⟩ := h
  rcases hwhole with rfl | ⟨⟨hne, hall⟩, -⟩
  · exact ⟨'0', _, rfl, by decide⟩
  · obtain ⟨c, rest, rfl⟩ := List.exists_cons_of_ne_nil hne
    exact ⟨c, _, rfl, hall c List.mem_cons_self⟩

theorem readNumber_writeMagnitude (x : Binary64) :
    ReadsAs (readNumber x.negative) (Binary64.writeMagnitude x.code)
      (Number.readBack? (.float x)) := by
  obtain ⟨n?, hread⟩ :=
    (Binary64.writeMagnitude_floatText x.code).exists_readsAs x.negative
  have halone := hread [] endsNumber_nil
  rw [List.append_nil] at halone
  have hn : Number.readBack? (.float x) = n? := by
    rw [Number.readBack?, halone, Option.map_map]
    exact Option.map_id'
  rw [hn]
  exact hread

theorem readScalar_of_readNumber {limit : Nat} {negative : Bool} {cs text rest : List Char}
    {n? : Option Number}
    (hscalar : readScalar limit cs =
      match readNumber negative text with
      | .ok (n, rest) => .ok (.num n, rest)
      | .error stop => .error stop)
    (hread : (readNumber negative text).toOption = n?.map (·, rest)) :
    (readScalar limit cs).toOption = (n?.map .num).map (·, rest) := by
  rw [hscalar]
  rcases toOption_eq_map hread with ⟨n, rfl, hok⟩ | ⟨rfl, stop, herror⟩
  · rw [hok]
    rfl
  · rw [herror]
    rfl

theorem readScalar_writeNumber {n : Number} (hrange : n.InRange) (limit : Nat) :
    ReadsAs (readScalar limit) n.write (n.readBack?.map .num) := by
  intro rest hrest
  match n, hrange with
  | .int (.ofNat k), hrange =>
      have hk : k < 2 ^ 64 := Int.ofNat_lt.mp hrange.2
      have hread := readNumber_toDigits hk hrest false
      obtain ⟨hne, hall⟩ := Binary64.digitRun_toDigits k
      rw [Number.write]
      generalize Nat.toDigits 10 k = ds at hne hall hread ⊢
      obtain ⟨c, ds, rfl⟩ := List.exists_cons_of_ne_nil hne
      have hc := hall c List.mem_cons_self
      refine readScalar_of_readNumber (readScalar_digit hc limit (ds ++ rest)) ?_
      rw [← List.cons_append, hread]
      rfl
  | .int (.negSucc k), hrange =>
      have hk : k + 1 ≤ 2 ^ 63 := by
        have hlow := hrange.1
        rw [Int.negSucc_eq] at hlow
        omega
      have hread := readNumber_toDigits (Nat.lt_of_le_of_lt hk (by decide)) hrest true
      refine readScalar_of_readNumber (readScalar_minus limit (Nat.toDigits 10 (k + 1) ++ rest)) ?_
      rw [hread]
      have hinteger : ofInteger true (k + 1) = .ok (.int (.negSucc k)) := by
        have hfits : ¬ (k + 1 = 0 ∨ Nat.pow 2 63 < k + 1) := by
          rintro (h | h)
          · exact Nat.succ_ne_zero k h
          · exact absurd hk (Nat.not_le_of_lt h)
        rw [ofInteger, if_neg (by decide), if_neg hfits, Int.negSucc_eq]
        rfl
      rw [hinteger]
      rfl
  | .float x, _ =>
      have hread := readNumber_writeMagnitude x rest hrest
      obtain ⟨c, text, htext, hc⟩ := (Binary64.writeMagnitude_floatText x.code).digit
      rw [Number.write, Binary64.write]
      cases hsign : x.negative with
      | true =>
          rw [hsign] at hread
          exact readScalar_of_readNumber (readScalar_minus limit _) hread
      | false =>
          rw [hsign] at hread
          rw [htext] at hread
          simp only [Bool.false_eq_true, if_false, htext]
          exact readScalar_of_readNumber (readScalar_digit hc limit _) hread

theorem writeNumber_head (n : Number) :
    ∃ c rest, n.write = c :: rest ∧ (isDigit c = true ∨ c = '-') := by
  match n with
  | .int (.ofNat k) =>
      obtain ⟨hne, hall⟩ := Binary64.digitRun_toDigits k
      obtain ⟨c, rest, hds⟩ := List.exists_cons_of_ne_nil hne
      exact ⟨c, rest, hds, .inl (hall c (hds ▸ List.mem_cons_self))⟩
  | .int (.negSucc k) => exact ⟨'-', _, rfl, .inr rfl⟩
  | .float x =>
      obtain ⟨c, rest, htext, hc⟩ := (Binary64.writeMagnitude_floatText x.code).digit
      rw [Number.write, Binary64.write]
      split
      · exact ⟨'-', _, rfl, .inr rfl⟩
      · exact ⟨c, rest, htext, .inl hc⟩

end Json

end HttpScenario
