import HttpScenario.Proofs.Text.Break
import HttpScenario.Runner
import Mathlib.Data.List.Basic

namespace HttpScenario

namespace Placeholder

/-! URLs as names in braces with other text between them. A brace opens a name up to the next
closing brace, whatever stands in between. -/

/-- A name in braces, and the text before it. -/
@[ext] structure UrlSlot where
  before : List Char
  name : String
  before_plain : '{' ∉ before
  name_closed : '}' ∉ name.toList

namespace UrlSlot

def text (slot : UrlSlot) : List Char :=
  slot.before ++ '{' :: (slot.name.toList ++ ['}'])

def filled (parameters : Table String) (slot : UrlSlot) : List Char :=
  match parameters.find? slot.name with
  | some value => slot.before ++ value.toList
  | none => slot.text

theorem filled_of_unbound {parameters : Table String} {slot : UrlSlot}
    (h : parameters.find? slot.name = none) : slot.filled parameters = slot.text := by
  rw [filled, h]

theorem text_append (slot : UrlSlot) (rest : List Char) :
    slot.text ++ rest = slot.before ++ '{' :: (slot.name.toList ++ '}' :: rest) := by
  simp [text]

theorem text_append_inj {slot other : UrlSlot} {rest rest' : List Char}
    (h : slot.text ++ rest = other.text ++ rest') : slot = other ∧ rest = rest' := by
  rw [text_append, text_append] at h
  obtain ⟨hbefore, hopened⟩ := Text.break_inj slot.before_plain other.before_plain h
  obtain ⟨hname, hrest⟩ := Text.break_inj slot.name_closed other.name_closed hopened
  exact ⟨UrlSlot.ext hbefore (String.toList_inj.mp hname), hrest⟩

end UrlSlot

/-- A URL without a name in braces: the part in which no brace opens, and the part from the
first brace on, which is never closed. -/
@[ext] structure UrlEnd where
  last : List Char
  tail : List Char
  last_plain : '{' ∉ last
  tail_unclosed : tail = [] ∨ ∃ rest, tail = '{' :: rest ∧ '}' ∉ rest

namespace UrlEnd

def text (ending : UrlEnd) : List Char := ending.last ++ ending.tail

theorem cases_text (ending : UrlEnd) : '{' ∉ ending.text ∧ ending.tail = [] ∨
    ∃ rest, ending.tail = '{' :: rest ∧ '}' ∉ rest := by
  rcases ending.tail_unclosed with htail | htail
  · refine .inl ⟨?_, htail⟩
    rw [text, htail, List.append_nil]
    exact ending.last_plain
  · exact .inr htail

theorem text_ne_slot (ending : UrlEnd) (slot : UrlSlot) (rest : List Char) :
    ending.text ≠ slot.text ++ rest := by
  intro h
  rw [UrlSlot.text_append] at h
  rcases ending.cases_text with ⟨hplain, -⟩ | ⟨opened, htail, hunclosed⟩
  · exact hplain (by simp [h])
  · rw [text, htail] at h
    obtain ⟨-, hopened⟩ := Text.break_inj ending.last_plain slot.before_plain h
    exact hunclosed (by simp [hopened])

theorem text_inj {ending other : UrlEnd} (h : ending.text = other.text) : ending = other := by
  rcases ending.cases_text with ⟨hplain, htail⟩ | ⟨opened, htail, -⟩ <;>
    rcases other.cases_text with ⟨hplain', htail'⟩ | ⟨opened', htail', -⟩
  · rw [text, text, htail, htail', List.append_nil, List.append_nil] at h
    exact UrlEnd.ext h (htail.trans htail'.symm)
  · rw [h, text, htail'] at hplain
    exact absurd (by simp) hplain
  · rw [← h, text, htail] at hplain'
    exact absurd (by simp) hplain'
  · rw [text, text, htail, htail'] at h
    obtain ⟨hlast, hopened⟩ := Text.break_inj ending.last_plain other.last_plain h
    exact UrlEnd.ext hlast (by rw [htail, htail', hopened])

end UrlEnd

structure UrlPieces where
  slots : List UrlSlot
  ending : UrlEnd

namespace UrlPieces

def characters (pieces : UrlPieces) : List Char :=
  pieces.slots.flatMap UrlSlot.text ++ pieces.ending.text

def text (pieces : UrlPieces) : String := String.ofList pieces.characters

def filled (parameters : Table String) (pieces : UrlPieces) : String :=
  String.ofList (pieces.slots.flatMap (UrlSlot.filled parameters) ++ pieces.ending.text)

theorem characters_cons (slot : UrlSlot) (slots : List UrlSlot) (ending : UrlEnd) :
    characters ⟨slot :: slots, ending⟩ = slot.text ++ characters ⟨slots, ending⟩ := by
  simp [characters]

theorem characters_injective : Function.Injective characters := by
  intro ⟨slots, ending⟩ ⟨slots', ending'⟩ h
  induction slots generalizing slots' with
  | nil =>
      cases slots' with
      | nil => exact congrArg (mk []) (UrlEnd.text_inj h)
      | cons slot' slots' =>
          rw [characters_cons] at h
          exact absurd h (ending.text_ne_slot slot' _)
  | cons slot slots ih =>
      rw [characters_cons] at h
      cases slots' with
      | nil => exact absurd h.symm (ending'.text_ne_slot slot _)
      | cons slot' slots' =>
          rw [characters_cons] at h
          obtain ⟨rfl, hrest⟩ := UrlSlot.text_append_inj h
          cases ih slots' hrest
          rfl

theorem slot_or_ending (url : List Char) :
    (∃ (slot : UrlSlot) (rest : List Char), url = slot.text ++ rest) ∨
      ∃ ending : UrlEnd, url = ending.text := by
  by_cases hopen : '{' ∈ url
  · obtain ⟨before, opened, rfl, hbefore⟩ := List.eq_append_cons_of_mem hopen
    by_cases hclose : '}' ∈ opened
    · obtain ⟨name, rest, rfl, hname⟩ := List.eq_append_cons_of_mem hclose
      refine .inl ⟨⟨before, String.ofList name, hbefore, by simpa using hname⟩, rest, ?_⟩
      simp [UrlSlot.text]
    · exact .inr ⟨⟨before, '{' :: opened, hbefore, .inr ⟨opened, rfl, hclose⟩⟩, rfl⟩
  · exact .inr ⟨⟨url, [], hopen, .inl rfl⟩, (List.append_nil url).symm⟩

theorem characters_surjective : Function.Surjective characters := by
  intro url
  -- A slot takes its two braces off the text, so what follows it is shorter.
  induction hlength : url.length using Nat.strongRecOn generalizing url with
  | ind n ih =>
      rcases slot_or_ending url with ⟨slot, rest, rfl⟩ | ⟨ending, rfl⟩
      · have hshorter : rest.length < n := by
          simp only [← hlength, UrlSlot.text, List.length_append, List.length_cons]
          omega
        obtain ⟨⟨slots, ending⟩, rfl⟩ := ih rest.length hshorter rest rfl
        exact ⟨⟨slot :: slots, ending⟩, characters_cons slot slots ending⟩
      · exact ⟨⟨[], ending⟩, rfl⟩

theorem existsUnique_text (url : String) : ∃! pieces : UrlPieces, pieces.text = url := by
  obtain ⟨pieces, hpieces⟩ := characters_surjective url.toList
  refine ⟨pieces, ?_, ?_⟩
  · simp [text, hpieces]
  · intro other hother
    apply characters_injective
    rw [hpieces, ← hother, text, String.toList_ofList]

end UrlPieces

variable {parameters : Table String}

theorem fillUrlCharacters_slot (slot : UrlSlot) (rest : List Char) :
    fillUrlCharacters parameters (slot.text ++ rest) =
      slot.filled parameters ++ fillUrlCharacters parameters rest := by
  have htake := Text.takeWhile_break slot.before_plain (slot.name.toList ++ '}' :: rest)
  have hdrop := Text.dropWhile_break slot.before_plain (slot.name.toList ++ '}' :: rest)
  have hname := Text.takeWhile_break slot.name_closed rest
  have hclose := Text.dropWhile_break slot.name_closed rest
  rw [UrlSlot.text_append, fillUrlCharacters]
  split
  · next hnone =>
      rw [hdrop] at hnone
      cases hnone
  · next brace opened hopened =>
      rw [hdrop] at hopened
      cases hopened
      split
      · next hnone =>
          rw [hclose] at hnone
          cases hnone
      · next brace' rest' hrest =>
          rw [hclose] at hrest
          cases hrest
          simp only [htake, hname, String.ofList_toList, UrlSlot.filled]
          cases parameters.find? slot.name with
          | none => simp [UrlSlot.text]
          | some value => rfl

theorem fillUrlCharacters_ending (ending : UrlEnd) :
    fillUrlCharacters parameters ending.text = ending.text := by
  rw [fillUrlCharacters]
  split
  · rfl
  · next brace opened hopened =>
      rcases ending.cases_text with ⟨hplain, -⟩ | ⟨rest, htail, hunclosed⟩
      · rw [Text.dropWhile_of_not_mem hplain] at hopened
        cases hopened
      · rw [UrlEnd.text, htail, Text.dropWhile_break ending.last_plain] at hopened
        cases hopened
        split
        · rfl
        · next hclosed =>
            rw [Text.dropWhile_of_not_mem hunclosed] at hclosed
            cases hclosed

theorem fillUrl_text (parameters : Table String) (pieces : UrlPieces) :
    fillUrl parameters pieces.text = pieces.filled parameters := by
  obtain ⟨slots, ending⟩ := pieces
  rw [fillUrl, UrlPieces.text, String.toList_ofList, UrlPieces.filled]
  apply congrArg String.ofList
  induction slots with
  | nil => exact fillUrlCharacters_ending ending
  | cons slot slots ih =>
      rw [UrlPieces.characters_cons, fillUrlCharacters_slot, ih, List.flatMap_cons,
        List.append_assoc]

theorem filled_of_unbound {pieces : UrlPieces}
    (h : ∀ slot ∈ pieces.slots, parameters.find? slot.name = none) :
    pieces.filled parameters = pieces.text := by
  have hslots : pieces.slots.flatMap (UrlSlot.filled parameters) =
      pieces.slots.flatMap UrlSlot.text :=
    List.flatMap_congr fun slot hslot => UrlSlot.filled_of_unbound (h slot hslot)
  rw [UrlPieces.filled, hslots]
  rfl

end Placeholder

theorem Runner.fillUrl_eq (parameters : Table String) (testCase : TestCase) :
    fillUrl parameters testCase =
      { testCase with url := Placeholder.fillUrl parameters testCase.url } := by
  rw [fillUrl]
  split
  · next hempty =>
      have hunbound : ∀ name, parameters.find? name = none := by
        intro name
        rw [Table.find?, List.isEmpty_iff.mp hempty]
        rfl
      obtain ⟨pieces, htext, -⟩ := Placeholder.UrlPieces.existsUnique_text testCase.url
      have hsame : Placeholder.fillUrl parameters testCase.url = testCase.url := by
        rw [← htext, Placeholder.fillUrl_text,
          Placeholder.filled_of_unbound fun slot _ => hunbound slot.name]
      rw [hsame]
  · rfl

namespace Placeholder

/-- A URL is made of pieces in one way only, and filling it puts the values in the places of
their names: no value is read again, and what has no value stays. -/
theorem fillUrl_pieces :
    (∀ url : String, ∃! pieces : UrlPieces, pieces.text = url) ∧
      (∀ (pieces : UrlPieces) (parameters : Table String),
        fillUrl parameters pieces.text = pieces.filled parameters ∧
        ((∀ slot ∈ pieces.slots, parameters.find? slot.name = none) →
          fillUrl parameters pieces.text = pieces.text)) ∧
      ∀ (parameters : Table String) (testCase : TestCase),
        Runner.fillUrl parameters testCase =
          { testCase with url := fillUrl parameters testCase.url } := by
  refine ⟨UrlPieces.existsUnique_text, ?_, Runner.fillUrl_eq⟩
  intro pieces parameters
  refine ⟨fillUrl_text parameters pieces, ?_⟩
  intro hunbound
  rw [fillUrl_text, filled_of_unbound hunbound]

def itemUrl : UrlPieces where
  slots := [⟨['/'], "a", by decide, by decide⟩, ⟨['/'], "\x7bb", by decide, by decide⟩]
  ending := ⟨['?'], ['{', 'c'], by decide, .inr ⟨['c'], rfl, by decide⟩⟩

theorem fillUrl_pieces_item :
    fillUrl (Table.ofList [("a", "{b}"), ("b", "x"), ("\x7bb", "y")])
        "/{a}/\x7b\x7bb\x7d?\x7bc" = "/{b}/y?\x7bc" ∧
      fillUrl (Table.ofList [("b", "x")]) "/{a}/\x7b\x7bb\x7d?\x7bc" =
        "/{a}/\x7b\x7bb\x7d?\x7bc" := by
  obtain ⟨-, hfill, -⟩ := fillUrl_pieces
  obtain ⟨hbound, -⟩ := hfill itemUrl (Table.ofList [("a", "{b}"), ("b", "x"), ("\x7bb", "y")])
  obtain ⟨-, hunbound⟩ := hfill itemUrl (Table.ofList [("b", "x")])
  refine ⟨hbound, hunbound ?_⟩
  simp only [itemUrl, List.forall_mem_cons]
  exact ⟨rfl, rfl, List.forall_mem_nil _⟩

end Placeholder

end HttpScenario
