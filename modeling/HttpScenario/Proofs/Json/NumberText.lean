import HttpScenario.Json.NumberReader
import HttpScenario.Proofs.Text.Digits

namespace HttpScenario.Json

/-! Number literals as the number reader takes them. Whatever follows a literal
and cannot belong to it has no part in what is read. -/

/-- What can follow a number without being taken for more of it. -/
def EndsNumber (rest : List Char) : Prop :=
  ∀ c, rest.head? = some c → isDigit c = false ∧ c ≠ '.' ∧ c ≠ 'e' ∧ c ≠ 'E'

def DigitRun (ds : List Char) : Prop := ds ≠ [] ∧ ∀ c ∈ ds, isDigit c = true

def WholePart (ds : List Char) : Prop :=
  ds = ['0'] ∨ (DigitRun ds ∧ ds.head? ≠ some '0')

inductive ExponentPart : List Char → Prop where
  | absent : ExponentPart []
  | present {sign : Char} {ds : List Char} (hsign : sign = '+' ∨ sign = '-')
      (hds : DigitRun ds) : ExponentPart ('e' :: sign :: ds)

/-- What makes a literal a float: a point, an exponent, or both. -/
inductive FloatTail : List Char → Prop where
  | pointed {fraction exponent : List Char} (hfraction : DigitRun fraction)
      (hexponent : ExponentPart exponent) : FloatTail ('.' :: (fraction ++ exponent))
  | scientific {sign : Char} {ds : List Char} (hsign : sign = '+' ∨ sign = '-')
      (hds : DigitRun ds) : FloatTail ('e' :: sign :: ds)

inductive FloatText : List Char → Prop where
  | mk {whole tail : List Char} (hwhole : WholePart whole) (htail : FloatTail tail) :
      FloatText (whole ++ tail)

/-- A reader takes exactly `text` for `value?`, or refuses it when that is nothing,
whatever follows. -/
def ReadsAs {α : Type} (read : List Char → Except Stop (α × List Char)) (text : List Char)
    (value? : Option α) : Prop :=
  ∀ rest, EndsNumber rest → (read (text ++ rest)).toOption = value?.map (·, rest)

theorem toOption_eq_map {α : Type} {result : Except Stop (α × List Char)} {value? : Option α}
    {rest : List Char} (h : result.toOption = value?.map (·, rest)) :
    (∃ value, value? = some value ∧ result = .ok (value, rest)) ∨
      (value? = none ∧ ∃ stop, result = .error stop) := by
  cases result with
  | ok taken =>
      cases value? with
      | none => cases h
      | some value => exact .inl ⟨value, rfl, congrArg Except.ok (Option.some.inj h)⟩
  | error stop =>
      cases value? with
      | none => exact .inr ⟨rfl, stop, rfl⟩
      | some value => cases h

theorem startsWithDigit_eq_false {cs : List Char}
    (h : ∀ c, cs.head? = some c → isDigit c = false) : startsWithDigit cs = false := by
  cases cs with
  | nil => rfl
  | cons c cs => exact h c rfl

theorem EndsNumber.startsWithDigit {rest : List Char} (h : EndsNumber rest) :
    startsWithDigit rest = false :=
  startsWithDigit_eq_false fun c hc => (h c hc).1

theorem startsWithDigit_append_left {ds : List Char} (hds : DigitRun ds) (rest : List Char) :
    startsWithDigit (ds ++ rest) = true := by
  obtain ⟨hne, hall⟩ := hds
  cases ds with
  | nil => exact absurd rfl hne
  | cons d ds => exact hall d List.mem_cons_self

theorem ExponentPart.startsWithDigit {exponent rest : List Char} (h : ExponentPart exponent)
    (hrest : EndsNumber rest) : startsWithDigit (exponent ++ rest) = false := by
  cases h with
  | absent => exact hrest.startsWithDigit
  | present hsign hds => exact (by decide : isDigit 'e' = false)

theorem FloatTail.startsWithDigit {tail : List Char} (h : FloatTail tail) (rest : List Char) :
    startsWithDigit (tail ++ rest) = false := by
  cases h with
  | pointed hfraction hexponent => exact (by decide : isDigit '.' = false)
  | scientific hsign hds => exact (by decide : isDigit 'e' = false)

theorem takeWhile_digits {ds rest : List Char} (hds : ∀ c ∈ ds, isDigit c = true)
    (hrest : startsWithDigit rest = false) : (ds ++ rest).takeWhile isDigit = ds := by
  rw [List.takeWhile_append_of_pos hds]
  cases rest with
  | nil => simp
  | cons c rest =>
      rw [List.takeWhile_cons_of_neg (by simpa [Json.startsWithDigit] using hrest)]
      exact List.append_nil ds

theorem dropWhile_digits {ds rest : List Char} (hds : ∀ c ∈ ds, isDigit c = true)
    (hrest : startsWithDigit rest = false) : (ds ++ rest).dropWhile isDigit = rest := by
  rw [List.dropWhile_append_of_pos hds]
  cases rest with
  | nil => rfl
  | cons c rest =>
      exact List.dropWhile_cons_of_neg (by simpa [Json.startsWithDigit] using hrest)

theorem gather_rest {rest : List Char} (hrest : startsWithDigit rest = false) (s k : Nat) :
    gather s k rest = ⟨s, k, rest⟩ := by
  cases rest with
  | nil => rfl
  | cons c rest =>
      have hnone : Text.digit? 10 c = none := by
        simpa [Json.startsWithDigit, isDigit, Text.isDigit] using hrest
      rw [gather, hnone]

theorem gather_digits {ds : List Char} (hds : ∀ c ∈ ds, isDigit c = true) (s k : Nat) :
    ∃ significand count extra, (∀ c ∈ extra, isDigit c = true) ∧
      ∀ rest, startsWithDigit rest = false →
        gather s k (ds ++ rest) = ⟨significand, count, extra ++ rest⟩ := by
  induction ds generalizing s k with
  | nil =>
      refine ⟨s, k, [], by simp, ?_⟩
      intro rest hrest
      exact gather_rest hrest s k
  | cons c ds ih =>
      obtain ⟨d, hd⟩ := Option.isSome_iff_exists.mp (hds c List.mem_cons_self)
      have htail : ∀ c ∈ ds, isDigit c = true := fun c hc => hds c (List.mem_cons_of_mem _ hc)
      by_cases hfits : s * 10 + d < significandLimit
      · obtain ⟨significand, count, extra, hextra, hgather⟩ := ih htail (s * 10 + d) (k + 1)
        refine ⟨significand, count, extra, hextra, ?_⟩
        intro rest hrest
        rw [List.cons_append, gather, hd]
        simp only [hfits, if_true]
        exact hgather rest hrest
      · refine ⟨s, k, c :: ds, hds, ?_⟩
        intro rest hrest
        rw [List.cons_append, gather, hd]
        simp only [hfits, if_false]

theorem gather_digitsValueFrom {ds rest : List Char} {s value : Nat} (k : Nat)
    (hvalue : Text.digitsValueFrom? 10 s ds = some value) (hlimit : value < significandLimit)
    (hrest : startsWithDigit rest = false) :
    gather s k (ds ++ rest) = ⟨value, k + ds.length, rest⟩ := by
  induction ds generalizing s k with
  | nil =>
      have heq : s = value := Option.some.inj hvalue
      rw [← heq]
      exact gather_rest hrest s k
  | cons c ds ih =>
      rw [Text.digitsValueFrom?] at hvalue
      cases hd : Text.digit? 10 c with
      | none => simp [hd] at hvalue
      | some d =>
          rw [hd] at hvalue
          have hle := Text.le_of_digitsValueFrom? (by decide) hvalue
          have hfits : s * 10 + d < significandLimit := Nat.lt_of_le_of_lt hle hlimit
          rw [List.cons_append, gather, hd]
          simp only [hfits, if_true]
          rw [ih (k + 1) hvalue, List.length_cons, Nat.add_right_comm, Nat.add_assoc]

theorem gatherExponent_rest {rest : List Char} (hrest : startsWithDigit rest = false)
    (e : Nat) : gatherExponent e rest = (e, rest) := by
  cases rest with
  | nil => rfl
  | cons c rest =>
      have hnone : Text.digit? 10 c = none := by
        simpa [Json.startsWithDigit, isDigit, Text.isDigit] using hrest
      rw [gatherExponent, hnone]

theorem gatherExponent_digits {ds : List Char} (hds : ∀ c ∈ ds, isDigit c = true) (e : Nat) :
    ∃ exponent extra, (∀ c ∈ extra, isDigit c = true) ∧
      (exponent ≤ exponentLimit → extra = []) ∧
      ∀ rest, startsWithDigit rest = false →
        gatherExponent e (ds ++ rest) = (exponent, extra ++ rest) := by
  induction ds generalizing e with
  | nil =>
      refine ⟨e, [], by simp, fun _ => rfl, ?_⟩
      intro rest hrest
      exact gatherExponent_rest hrest e
  | cons c ds ih =>
      obtain ⟨d, hd⟩ := Option.isSome_iff_exists.mp (hds c List.mem_cons_self)
      have htail : ∀ c ∈ ds, isDigit c = true := fun c hc => hds c (List.mem_cons_of_mem _ hc)
      by_cases hfits : e * 10 + d ≤ exponentLimit
      · obtain ⟨exponent, extra, hextra, hnone, hgather⟩ := ih htail (e * 10 + d)
        refine ⟨exponent, extra, hextra, hnone, ?_⟩
        intro rest hrest
        rw [List.cons_append, gatherExponent, hd]
        simp only [hfits, if_true]
        exact hgather rest hrest
      · refine ⟨e * 10 + d, ds, htail, fun h => absurd h hfits, ?_⟩
        intro rest hrest
        rw [List.cons_append, gatherExponent, hd]
        simp only [hfits, if_false]

theorem finishFloat_readsAs (negative : Bool) (significand : Nat) (exponent : Int) :
    ReadsAs (finishFloat negative significand exponent) []
      ((Binary64.ofDecimal? negative significand exponent).map .float) := by
  intro rest hrest
  rw [List.nil_append, finishFloat]
  cases Binary64.ofDecimal? negative significand exponent with
  | none => rfl
  | some x => rfl

theorem readExponent_readsAs (negative : Bool) (significand : Nat) (start : Int)
    {sign : Char} {ds : List Char} (hsign : sign = '+' ∨ sign = '-') (hds : DigitRun ds) :
    ∃ n?, ReadsAs (readExponent negative significand start) (sign :: ds) n? := by
  obtain ⟨exponent, extra, hextra, hnone, hgather⟩ := gatherExponent_digits hds.2 0
  let down : Bool := sign = '-'
  have hstep : ∀ rest, EndsNumber rest →
      readExponent negative significand start (sign :: ds ++ rest) =
        if exponent ≤ exponentLimit then
          finishFloat negative significand
            (if down then start - exponent else start + exponent) (extra ++ rest)
        else if significand ≠ 0 ∧ !down then
          .error (.before .numberOutOfRange (extra ++ rest))
        else .ok (.float (.zero negative), rest) := by
    intro rest hrest
    have hstarts := startsWithDigit_append_left hds rest
    have hne : (ds ++ rest).isEmpty = false := by
      cases ds with
      | nil => exact absurd rfl hds.1
      | cons d ds => rfl
    have hdrop := dropWhile_digits hextra hrest.startsWithDigit
    rcases hsign with rfl | rfl <;>
      simp [readExponent, hne, hstarts, hgather rest hrest.startsWithDigit, hdrop, down]
  by_cases hlimit : exponent ≤ exponentLimit
  · let value := if down then start - exponent else start + exponent
    refine ⟨(Binary64.ofDecimal? negative significand value).map .float, fun rest hrest => ?_⟩
    rw [hstep rest hrest, if_pos hlimit, hnone hlimit]
    exact finishFloat_readsAs negative significand value rest hrest
  · by_cases hover : significand ≠ 0 ∧ !down
    · refine ⟨none, fun rest hrest => ?_⟩
      rw [hstep rest hrest, if_neg hlimit, if_pos hover]
      rfl
    · refine ⟨some (.float (.zero negative)), fun rest hrest => ?_⟩
      rw [hstep rest hrest, if_neg hlimit, if_neg hover]
      rfl

theorem readFloatTail_readsAs (negative : Bool) (significand : Nat) (start : Int)
    {exponent : List Char} (hexponent : ExponentPart exponent) :
    ∃ n?, ReadsAs (readFloatTail negative significand start) exponent n? := by
  cases hexponent with
  | absent =>
      refine ⟨(Binary64.ofDecimal? negative significand start).map .float, fun rest hrest => ?_⟩
      have hplain : readFloatTail negative significand start ([] ++ rest) =
          finishFloat negative significand start ([] ++ rest) := by
        rw [readFloatTail.eq_def]
        split
        · next heq => exact absurd rfl (hrest 'e' (by rw [← List.nil_append rest, heq]; rfl)).2.2.1
        · next heq => exact absurd rfl (hrest 'E' (by rw [← List.nil_append rest, heq]; rfl)).2.2.2
        · rfl
      rw [hplain]
      exact finishFloat_readsAs negative significand start rest hrest
  | present hsign hds =>
      obtain ⟨n?, hread⟩ := readExponent_readsAs negative significand start hsign hds
      exact ⟨n?, hread⟩

theorem readFraction_readsAs (negative : Bool) (significand : Nat) (start : Int)
    {fraction exponent : List Char} (hfraction : DigitRun fraction)
    (hexponent : ExponentPart exponent) :
    ∃ n?, ReadsAs (readFraction negative significand start) (fraction ++ exponent) n? := by
  obtain ⟨s, count, extra, hextra, hgather⟩ := gather_digits hfraction.2 significand 0
  obtain ⟨n?, htail⟩ := readFloatTail_readsAs negative s (start - count) hexponent
  have hstep : ∀ rest, EndsNumber rest →
      (readFraction negative significand start (fraction ++ exponent ++ rest)).toOption =
        if extra = [] ∧ count = 0 then none
        else (readFloatTail negative s (start - count) (exponent ++ rest)).toOption := by
    intro rest hrest
    have hends := hexponent.startsWithDigit hrest
    rw [List.append_assoc, readFraction, hgather _ hends]
    by_cases hnone : extra = []
    · subst hnone
      by_cases hcount : count = 0
      · simp [hends, hcount, Except.toOption]
      · simp [hends, hcount]
    · have hstarts := startsWithDigit_append_left ⟨hnone, hextra⟩ (exponent ++ rest)
      simp only [hstarts, if_true, dropWhile_digits hextra hends, hnone, false_and, if_false]
  by_cases hempty : extra = [] ∧ count = 0
  · exact ⟨none, fun rest hrest => by rw [hstep rest hrest, if_pos hempty]; rfl⟩
  · exact ⟨n?, fun rest hrest => by rw [hstep rest hrest, if_neg hempty, htail rest hrest]⟩

theorem readNumberTail_readsAs (negative : Bool) (significand count : Nat)
    {extra tail : List Char} (hextra : ∀ c ∈ extra, isDigit c = true) (htail : FloatTail tail) :
    ∃ n?, ReadsAs (fun cs => readNumberTail negative ⟨significand, count, extra ++ cs⟩) tail n? := by
  cases htail with
  | pointed hfraction hexponent =>
      obtain ⟨n?, hread⟩ :=
        readFraction_readsAs negative significand extra.length hfraction hexponent
      refine ⟨n?, fun rest hrest => ?_⟩
      have hends := (FloatTail.pointed hfraction hexponent).startsWithDigit rest
      rw [← hread rest hrest]
      simp only [readNumberTail, takeWhile_digits hextra hends, dropWhile_digits hextra hends]
      rfl
  | scientific hsign hds =>
      obtain ⟨n?, hread⟩ := readExponent_readsAs negative significand extra.length hsign hds
      refine ⟨n?, fun rest hrest => ?_⟩
      have hends := (FloatTail.scientific hsign hds).startsWithDigit rest
      rw [← hread rest hrest]
      simp only [readNumberTail, takeWhile_digits hextra hends, dropWhile_digits hextra hends]
      rfl

theorem readNumber_digits (negative : Bool) {ds rest : List Char} (hds : DigitRun ds)
    (hfirst : ds.head? ≠ some '0') :
    readNumber negative (ds ++ rest) = readNumberTail negative (gather 0 0 (ds ++ rest)) := by
  cases ds with
  | nil => exact absurd rfl hds.1
  | cons c ds =>
      have hc : isDigit c = true := hds.2 c List.mem_cons_self
      have hzero : c ≠ '0' := fun h => hfirst (by rw [h]; rfl)
      rw [List.cons_append, readNumber.eq_def]
      split
      · next heq => cases heq
      · next heq => exact absurd (List.cons.inj heq).1 hzero
      · next heq =>
          obtain ⟨rfl, rfl⟩ := List.cons.inj heq
          rw [if_pos hc]

/-- A float literal is taken whole, as a number that does not depend on what
follows it. -/
theorem FloatText.exists_readsAs {text : List Char} (h : FloatText text) (negative : Bool) :
    ∃ n?, ReadsAs (readNumber negative) text n? := by
  obtain ⟨hwhole, htail⟩ := h
  rename_i whole tail
  rcases hwhole with rfl | ⟨hds, hfirst⟩
  · have hnone : ∀ c ∈ ([] : List Char), isDigit c = true := by simp
    obtain ⟨n?, hread⟩ := readNumberTail_readsAs negative 0 1 hnone htail
    refine ⟨n?, fun rest hrest => ?_⟩
    rw [← hread rest hrest]
    simp [readNumber, htail.startsWithDigit rest]
  · obtain ⟨s, count, extra, hextra, hgather⟩ := gather_digits hds.2 0 0
    obtain ⟨n?, hread⟩ := readNumberTail_readsAs negative s count hextra htail
    refine ⟨n?, fun rest hrest => ?_⟩
    rw [← hread rest hrest, List.append_assoc, readNumber_digits negative hds hfirst,
      hgather _ (htail.startsWithDigit rest)]

end HttpScenario.Json
