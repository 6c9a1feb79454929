import HttpScenario.Json.Path
import HttpScenario.Proofs.Results
import HttpScenario.Proofs.Text.Digits
import Mathlib.Data.List.Forall2

namespace HttpScenario

/-! Which texts are paths. The reader accepts the texts of a grammar over their tokens, and
gives back the steps that a path was written from. -/

namespace Path

structure Numeral (digits : List Char) (i : Nat) : Prop where
  ne_nil : digits ≠ []
  isDigit : ∀ c ∈ digits, c.isDigit = true
  value : Nat.ofDigitChars 10 digits 0 = i
  lt_limit : i < Nat.pow 2 64

inductive IndexToken : List Char → Nat → Prop
  | bare {digits : List Char} {i : Nat} (h : Numeral digits i) :
      IndexToken ('[' :: (digits ++ [']'])) i
  | signed {digits : List Char} {i : Nat} (h : Numeral digits i) :
      IndexToken ('[' :: '+' :: (digits ++ [']'])) i

inductive StepToken : List Char → Step → Prop
  | key {token : List Char} (hbracket : token.head? ≠ some '[')
      (hwildcard : token.head? ≠ some '*') : StepToken token (.key (String.ofList token))
  | index {token : List Char} {i : Nat} (h : IndexToken token i) : StepToken token (.index i)

inductive TargetToken : List Char → Target → Prop
  | key {token : List Char} {name : String} (h : StepToken token (.key name)) :
      TargetToken token (.key name)
  | index {token : List Char} {i : Nat} (h : IndexToken token i) : TargetToken token (.index i)
  | eachKey {token : List Char} (hne : token ≠ []) (hbracket : token.head? ≠ some '[') :
      TargetToken ('*' :: token) (.eachKey (String.ofList token))
  | eachIndex {token : List Char} {i : Nat} (h : IndexToken token i) :
      TargetToken ('*' :: token) (.eachIndex i)

/-- A text whose tokens, between its dots, are those of steps and of a target. -/
def Grammatical (text : String) : Prop :=
  text ≠ "" ∧ ∃ init last, text.toList.splitOn '.' = init ++ [last] ∧
    (∀ token ∈ init, ∃ step, StepToken token step) ∧ ∃ target, TargetToken last target

variable {token digits : List Char} {i : Nat}

theorem digitsValue?_eq_some_iff :
    Text.digitsValue? 10 digits = some i ↔
      (∀ c ∈ digits, c.isDigit = true) ∧ Nat.ofDigitChars 10 digits 0 = i := by
  rw [Text.digitsValue?, Text.digitsValueFrom?_ten, Option.ite_none_right_eq_some,
    List.all_eq_true, Option.some.injEq]

theorem natural?_eq_some_iff {cs : List Char} :
    natural? cs = some i ↔ ∃ digits, (cs = digits ∨ cs = '+' :: digits) ∧ Numeral digits i := by
  have hnumeral : ∀ digits : List Char,
      (if digits.isEmpty then none
        else (Text.digitsValue? 10 digits).filter (· < indexLimit)) = some i ↔
        Numeral digits i := by
    intro digits
    rw [Option.ite_none_left_eq_some, Option.filter_eq_some_iff, digitsValue?_eq_some_iff,
      List.isEmpty_iff, decide_eq_true_iff]
    constructor
    · intro ⟨hne, ⟨hdigits, hvalue⟩, hlt⟩
      exact ⟨hne, hdigits, hvalue, hlt⟩
    · intro h
      exact ⟨h.ne_nil, ⟨h.isDigit, h.value⟩, h.lt_limit⟩
  unfold natural?
  split
  · next rest =>
      rw [hnumeral]
      constructor
      · intro h
        exact ⟨rest, .inr rfl, h⟩
      · intro ⟨digits, hcs, h⟩
        rcases hcs with rfl | hcs
        · cases h.isDigit '+' List.mem_cons_self
        · cases hcs
          exact h
  · next hplus =>
      rw [hnumeral]
      constructor
      · intro h
        exact ⟨cs, .inl rfl, h⟩
      · intro ⟨digits, hcs, h⟩
        rcases hcs with rfl | hcs
        · exact h
        · exact absurd hcs (hplus digits)

theorem bracketed?_eq_some_iff {inner : List Char} :
    bracketed? token = some inner ↔ token = '[' :: (inner ++ [']']) := by
  unfold bracketed?
  split
  · next rest =>
      rw [Option.ite_none_right_eq_some, Option.some.injEq]
      constructor
      · intro ⟨hlast, hinner⟩
        obtain ⟨init, rfl⟩ := List.getLast?_eq_some_iff.mp hlast
        rw [← hinner, List.dropLast_concat]
      · intro h
        cases h
        simp
  · next hopen =>
      constructor
      · exact nofun
      · intro h
        exact absurd h (hopen _)

theorem readIndex_eq_ok_iff : readIndex token = .ok i ↔ IndexToken token i := by
  have hread : readIndex token = .ok i ↔
      ∃ inner, bracketed? token = some inner ∧ natural? inner = some i := by
    unfold readIndex
    cases bracketed? token with
    | none => simp
    | some inner => cases hvalue : natural? inner <;> simp [hvalue]
  rw [hread]
  simp only [bracketed?_eq_some_iff, natural?_eq_some_iff]
  constructor
  · intro ⟨inner, htoken, digits, hinner, h⟩
    rcases hinner with rfl | rfl
    · exact htoken ▸ .bare h
    · exact htoken ▸ .signed h
  · intro h
    cases h with
    | bare h => exact ⟨_, rfl, _, .inl rfl, h⟩
    | signed h => exact ⟨_, rfl, _, .inr rfl, h⟩

theorem IndexToken.head? (h : IndexToken token i) : token.head? = some '[' := by
  cases h <;> rfl

variable {step : Step} {steps : List Step} {target : Target}

theorem StepToken.head?_ne (h : StepToken token step) : token.head? ≠ some '*' := by
  cases h with
  | key _ hwildcard => exact hwildcard
  | index h =>
      rw [h.head?]
      decide

theorem readStep_eq_ok_iff (hwildcard : token.head? ≠ some '*') :
    readStep token = .ok step ↔ StepToken token step := by
  unfold readStep
  split
  · next hbracket =>
      simp only [map_eq_ok, readIndex_eq_ok_iff]
      constructor
      · intro ⟨i, h, hstep⟩
        exact hstep ▸ .index h
      · intro h
        cases h with
        | key hno _ => exact absurd hbracket hno
        | index h => exact ⟨_, h, rfl⟩
  · next hbracket =>
      constructor
      · intro h
        cases h
        exact .key hbracket hwildcard
      · intro h
        cases h with
        | key => rfl
        | index h => exact absurd h.head? hbracket

theorem readTarget_eq_ok_iff : readTarget token = .ok target ↔ TargetToken token target := by
  unfold readTarget
  split
  · constructor
    · exact nofun
    · intro h
      cases h with
      | key h => exact absurd rfl h.head?_ne
      | index h => cases h
      | eachKey hne => exact absurd rfl hne
      | eachIndex h => cases h
  · next rest hne =>
      split
      · next hbracket =>
          simp only [map_eq_ok, readIndex_eq_ok_iff]
          constructor
          · intro ⟨i, h, htarget⟩
            exact htarget ▸ .eachIndex h
          · intro h
            cases h with
            | key h => exact absurd rfl h.head?_ne
            | index h => cases h
            | eachKey _ hno => exact absurd hbracket hno
            | eachIndex h => exact ⟨_, h, rfl⟩
      · next hbracket =>
          constructor
          · intro h
            cases h
            exact .eachKey (fun hnil => hne (hnil ▸ rfl)) hbracket
          · intro h
            cases h with
            | key h => exact absurd rfl h.head?_ne
            | index h => cases h
            | eachKey => rfl
            | eachIndex h => exact absurd h.head? hbracket
  · next hstar =>
      have hwildcard : token.head? ≠ some '*' := by
        intro h
        obtain ⟨rest, rfl⟩ := List.head?_eq_some_iff.mp h
        exact hstar rest rfl
      simp only [map_eq_ok, readStep_eq_ok_iff hwildcard]
      constructor
      · intro ⟨step, h, htarget⟩
        cases h with
        | key hbracket => exact htarget ▸ .key (.key hbracket hwildcard)
        | index h => exact htarget ▸ .index h
      · intro h
        cases h with
        | key h => exact ⟨_, h, rfl⟩
        | index h => exact ⟨_, .index h, rfl⟩
        | eachKey => exact absurd rfl hwildcard
        | eachIndex => exact absurd rfl hwildcard

theorem readParents_eq_ok_iff {tokens : List (List Char)} :
    readParents tokens = .ok steps ↔ List.Forall₂ StepToken tokens steps := by
  induction tokens generalizing steps with
  | nil =>
      rw [readParents, List.forall₂_nil_left_iff, Except.ok.injEq]
      exact eq_comm
  | cons token tokens ih =>
      rw [readParents, List.forall₂_cons_left_iff]
      split
      · next hwildcard =>
          constructor
          · exact nofun
          · intro ⟨step, _, h, _⟩
            exact absurd hwildcard h.head?_ne
      · next hwildcard =>
          simp only [bind_eq_ok, readStep_eq_ok_iff hwildcard, ih]
          constructor
          · intro ⟨step, h, rest, hrest, hsteps⟩
            cases hsteps
            exact ⟨step, rest, h, hrest, rfl⟩
          · intro ⟨step, rest, h, hrest, hsteps⟩
            exact ⟨step, h, rest, hrest, hsteps ▸ rfl⟩

theorem parse_eq_ok_iff {text : String} {path : Path} :
    parse text = .ok path ↔ path.text = text ∧ text ≠ "" ∧
      ∃ init last, text.toList.splitOn '.' = init ++ [last] ∧
        List.Forall₂ StepToken init path.parents ∧ TargetToken last path.target := by
  have hread : parse text = .ok path ↔ path.text = text ∧ text ≠ "" ∧
      List.Forall₂ StepToken (tokens text.toList).dropLast path.parents ∧
      TargetToken ((tokens text.toList).getLastD []) path.target := by
    rw [parse, mapError_eq_ok, read]
    split
    · next hempty => simp [String.isEmpty_iff.mp hempty]
    · next hempty =>
        simp only [bind_eq_ok, readParents_eq_ok_iff, readTarget_eq_ok_iff]
        constructor
        · intro ⟨parents, hparents, target, htarget, hpath⟩
          cases hpath
          exact ⟨rfl, mt String.isEmpty_iff.mpr hempty, hparents, htarget⟩
        · intro ⟨htext, _, hparents, htarget⟩
          exact ⟨_, hparents, _, htarget, by rw [← htext]; rfl⟩
  obtain ⟨init, last, hsplit⟩ : ∃ init last, text.toList.splitOn '.' = init ++ [last] := by
    rcases List.eq_nil_or_concat (text.toList.splitOn '.') with hnil | ⟨init, last, hconcat⟩
    · exact absurd hnil (List.splitOn_ne_nil '.' text.toList)
    · exact ⟨init, last, hconcat.trans (List.concat_eq_append ..)⟩
  rw [hread, tokens, hsplit, List.dropLast_concat, List.getLastD_eq_getLast?,
    List.getLast?_concat, Option.getD_some]
  constructor
  · intro ⟨htext, hne, hparents, htarget⟩
    exact ⟨htext, hne, init, last, rfl, hparents, htarget⟩
  · intro ⟨htext, hne, init', last', heq, hparents, htarget⟩
    obtain ⟨rfl, hlast⟩ := List.append_inj' heq rfl
    cases hlast
    exact ⟨htext, hne, hparents, htarget⟩

theorem exists_parse_iff_grammatical {text : String} :
    (∃ path, parse text = .ok path) ↔ Grammatical text := by
  have hparents : ∀ tokens : List (List Char), (∃ steps, List.Forall₂ StepToken tokens steps) ↔
      ∀ token ∈ tokens, ∃ step, StepToken token step := by
    intro tokens
    induction tokens with
    | nil => simp
    | cons token tokens ih =>
        rw [List.forall_mem_cons, ← ih]
        constructor
        · intro ⟨_, h⟩
          cases h with
          | cons h hrest => exact ⟨⟨_, h⟩, _, hrest⟩
        · intro ⟨⟨step, h⟩, steps, hrest⟩
          exact ⟨step :: steps, .cons h hrest⟩
  simp only [parse_eq_ok_iff, Grammatical, ← hparents]
  constructor
  · intro ⟨path, _, hne, init, last, hsplit, hparents, htarget⟩
    exact ⟨hne, init, last, hsplit, ⟨_, hparents⟩, _, htarget⟩
  · intro ⟨hne, init, last, hsplit, ⟨steps, hsteps⟩, target, htarget⟩
    exact ⟨⟨text, steps, target⟩, rfl, hne, init, last, hsplit, hsteps, htarget⟩

end Path

def Step.Writable : Step → Prop
  | .key name =>
      '.' ∉ name.toList ∧ name.toList.head? ≠ some '[' ∧ name.toList.head? ≠ some '*'
  | .index i => i < Nat.pow 2 64

def Target.Writable : Target → Prop
  | .key name =>
      '.' ∉ name.toList ∧ name.toList.head? ≠ some '[' ∧ name.toList.head? ≠ some '*'
  | .index i => i < Nat.pow 2 64
  | .eachKey name => '.' ∉ name.toList ∧ name ≠ "" ∧ name.toList.head? ≠ some '['
  | .eachIndex i => i < Nat.pow 2 64

namespace Path

/-- Steps that make up a path: each of them can be written, and there is more to write than
one empty name. -/
structure Writable (parents : List Step) (target : Target) : Prop where
  steps : ∀ step ∈ parents, step.Writable
  last : target.Writable
  ne_empty : ¬ (parents = [] ∧ target = .key "")

variable {token : List Char} {i : Nat} {step : Step} {target : Target} {parents : List Step}

theorem IndexToken.lt_limit (h : IndexToken token i) : i < Nat.pow 2 64 := by
  cases h with
  | bare h => exact h.lt_limit
  | signed h => exact h.lt_limit

theorem StepToken.eq_of_key {name : String} (h : StepToken token (.key name)) :
    token = name.toList := by
  cases h with
  | key => exact String.toList_ofList.symm

theorem StepToken.writable (h : StepToken token step) (hdot : '.' ∉ token) : step.Writable := by
  cases h with
  | key hbracket hwildcard =>
      rw [Step.Writable, String.toList_ofList]
      exact ⟨hdot, hbracket, hwildcard⟩
  | index h => exact h.lt_limit

theorem TargetToken.writable (h : TargetToken token target) (hdot : '.' ∉ token) :
    target.Writable := by
  cases h with
  | key h => exact h.writable hdot
  | index h => exact h.lt_limit
  | eachKey hne hbracket =>
      rw [Target.Writable, String.toList_ofList]
      refine ⟨fun hmem => hdot (List.mem_cons_of_mem _ hmem), ?_, hbracket⟩
      intro hempty
      exact hne (String.ofList_eq_empty_iff.mp hempty)
  | eachIndex h => exact h.lt_limit

theorem not_mem_of_mem_splitOn {cs : List Char} (h : token ∈ cs.splitOn '.') : '.' ∉ token := by
  induction cs generalizing token with
  | nil =>
      rw [List.splitOn_nil, List.mem_singleton] at h
      simp [h]
  | cons c cs ih =>
      rw [List.splitOn_cons_eq_if_modifyHead] at h
      obtain ⟨first, rest, hsplit⟩ := List.exists_cons_of_ne_nil (List.splitOn_ne_nil '.' cs)
      rw [hsplit] at h ih
      split at h
      · rcases List.mem_cons.mp h with rfl | h
        · simp
        · exact ih h
      · next hc =>
          have hne : '.' ≠ c := fun heq => hc (beq_iff_eq.mpr heq.symm)
          rcases List.mem_cons.mp h with rfl | h
          · exact List.not_mem_cons_of_ne_of_not_mem hne (ih List.mem_cons_self)
          · exact ih (List.mem_cons_of_mem _ h)

theorem writable_of_tokens {tokens : List (List Char)} (h : List.Forall₂ StepToken tokens parents)
    (hdot : ∀ token ∈ tokens, '.' ∉ token) : ∀ step ∈ parents, step.Writable := by
  induction h with
  | nil => exact List.forall_mem_nil _
  | cons h _ ih =>
      obtain ⟨hfirst, hrest⟩ := List.forall_mem_cons.mp hdot
      exact List.forall_mem_cons.mpr ⟨h.writable hfirst, ih hrest⟩

theorem writable_of_parse {text : String} {path : Path} (h : parse text = .ok path) :
    path.text = text ∧ Writable path.parents path.target := by
  obtain ⟨htext, hne, init, last, hsplit, hparents, htarget⟩ := parse_eq_ok_iff.mp h
  have hdot : ∀ token ∈ init ++ [last], '.' ∉ token := by
    intro token hmem
    exact not_mem_of_mem_splitOn (hsplit ▸ hmem)
  obtain ⟨hinit, hlast⟩ := List.forall_mem_append.mp hdot
  refine ⟨htext, writable_of_tokens hparents hinit,
    htarget.writable (hlast last List.mem_cons_self), ?_⟩
  intro ⟨hnone, hempty⟩
  rw [hnone, List.forall₂_nil_right_iff] at hparents
  rw [hempty] at htarget
  have hnil : last = [] := by
    cases htarget with
    | key h => exact h.eq_of_key
  have hjoin : ['.'].intercalate (text.toList.splitOn '.') = text.toList :=
    List.intercalate_splitOn '.'
  rw [hsplit, hparents, hnil] at hjoin
  exact hne (String.toList_eq_nil_iff.mp hjoin.symm)

theorem numeral_toDigits (h : i < Nat.pow 2 64) : Numeral (Nat.toDigits 10 i) i where
  ne_nil := Nat.toDigits_ne_nil
  isDigit _ hc := Nat.isDigit_of_mem_toDigits (by decide) (by decide) hc
  value := Nat.ofDigitChars_toDigits (by decide) (by decide)
  lt_limit := h

theorem indexToken_writeIndex (h : i < Nat.pow 2 64) : IndexToken (writeIndex i) i :=
  .bare (numeral_toDigits h)

theorem stepToken_writeStep (h : step.Writable) : StepToken (writeStep step) step := by
  cases step with
  | key name =>
      have htoken : StepToken name.toList (.key (String.ofList name.toList)) := .key h.2.1 h.2.2
      rwa [String.ofList_toList] at htoken
  | index i => exact .index (indexToken_writeIndex h)

theorem targetToken_writeTarget (h : target.Writable) :
    TargetToken (writeTarget target) target := by
  cases target with
  | key name =>
      have hstep : StepToken (writeStep (.key name)) (.key name) := stepToken_writeStep h
      exact .key hstep
  | index i => exact .index (indexToken_writeIndex h)
  | eachKey name =>
      have htoken : TargetToken ('*' :: name.toList) (.eachKey (String.ofList name.toList)) :=
        .eachKey (mt String.toList_eq_nil_iff.mp h.2.1) h.2.2
      rwa [String.ofList_toList] at htoken
  | eachIndex i => exact .eachIndex (indexToken_writeIndex h)

theorem dot_not_mem_writeIndex (i : Nat) : '.' ∉ writeIndex i := by
  have hdigits : '.' ∉ Nat.toDigits 10 i := by
    intro hmem
    cases Nat.isDigit_of_mem_toDigits (by decide) (by decide) hmem
  simp [writeIndex, hdigits]

theorem dot_not_mem_writeStep (h : step.Writable) : '.' ∉ writeStep step := by
  cases step with
  | key name => exact h.1
  | index i => exact dot_not_mem_writeIndex i

theorem dot_not_mem_writeTarget (h : target.Writable) : '.' ∉ writeTarget target := by
  cases target with
  | key name => exact h.1
  | index i => exact dot_not_mem_writeIndex i
  | eachKey name => simpa [writeTarget] using h.1
  | eachIndex i => simpa [writeTarget] using dot_not_mem_writeIndex i

theorem splitOn_write (h : Writable parents target) :
    (write parents target).toList.splitOn '.' =
      parents.map writeStep ++ [writeTarget target] := by
  rw [write, String.toList_ofList]
  apply List.splitOn_intercalate
  · intro token hmem
    rcases List.mem_append.mp hmem with hmem | hmem
    · obtain ⟨step, hstep, rfl⟩ := List.mem_map.mp hmem
      exact dot_not_mem_writeStep (h.steps step hstep)
    · rw [List.mem_singleton.mp hmem]
      exact dot_not_mem_writeTarget h.last
  · exact List.append_ne_nil_of_right_ne_nil _ (List.cons_ne_nil _ _)

theorem write_ne_empty (h : Writable parents target) : write parents target ≠ "" := by
  intro hempty
  have hsplit := splitOn_write h
  rw [hempty, String.toList_empty, List.splitOn_nil, ← List.nil_append [[]]] at hsplit
  obtain ⟨hparents, htarget⟩ := List.append_inj' hsplit rfl
  apply h.ne_empty
  refine ⟨List.map_eq_nil_iff.mp hparents.symm, ?_⟩
  cases target with
  | key name =>
      have hname : [] = name.toList := List.head_eq_of_cons_eq htarget
      rw [String.toList_eq_nil_iff.mp hname.symm]
  | _ => cases htarget

theorem parse_write (h : Writable parents target) :
    parse (write parents target) = .ok ⟨write parents target, parents, target⟩ := by
  rw [parse_eq_ok_iff]
  refine ⟨rfl, write_ne_empty h, _, _, splitOn_write h, ?_, targetToken_writeTarget h.last⟩
  rw [List.forall₂_map_left_iff, List.forall₂_same]
  intro step hstep
  exact stepToken_writeStep (h.steps step hstep)

/-- Exactly the texts of the grammar are read as paths, what is read can be written, and what
can be written is read back from its text. -/
theorem parse_grammar :
    (∀ text, (∃ path, parse text = .ok path) ↔ Grammatical text) ∧
      (∀ text path, parse text = .ok path →
        path.text = text ∧ Writable path.parents path.target) ∧
      ∀ parents target, Writable parents target →
        parse (write parents target) = .ok ⟨write parents target, parents, target⟩ :=
  ⟨fun _ => exists_parse_iff_grammatical, fun _ _ => writable_of_parse, fun _ _ => parse_write⟩

example : parse "a.[+007].**[k" = .ok ⟨"a.[+007].**[k", [.key "a", .index 7], .eachKey "*[k"⟩ :=
  rfl

end Path

end HttpScenario
