import HttpScenario.Proofs.Json.ReadBack
import HttpScenario.Proofs.Json.Reading

namespace HttpScenario.Json

/-! The document that a text denotes. It may nest deeper than what is parsed. -/

/-- A text is read as a document if enough containers may be nested. -/
def Denotes (text : String) (v : Json) : Prop :=
  ∃ depth rest, readValue (text.toList.length + 1) depth text.toList = .ok (v, rest) ∧
    skipBlanks rest = []

def Widens {α : Type} (reader wider : List Char → Except Stop (α × List Char)) : Prop :=
  ∀ ⦃cs value rest⦄, reader cs = .ok (value, rest) → wider cs = .ok (value, rest)

section Containers

variable {element wider : List Char → Read} (h : Widens element wider)

include h

theorem readItems_widens (limit : Nat) (read : List Json) :
    Widens (readItems element limit read) (readItems wider limit read) := by
  induction limit generalizing read with
  | zero => exact nofun
  | succ limit ih =>
      intro cs v rest hread
      rw [readItems] at hread ⊢
      generalize skipBlanks cs = next at hread ⊢
      split at hread
      · cases hread
      · exact hread
      · next tail =>
          generalize skipBlanks tail = next at hread ⊢
          split at hread
          · cases hread
          · cases hread
          · split at hread
            · next hitem =>
                simp only [h hitem]
                exact ih _ hread
            · cases hread
      · cases hread

theorem readArray_widens (limit : Nat) :
    Widens (readArray element limit) (readArray wider limit) := by
  intro cs v rest hread
  rw [readArray] at hread ⊢
  generalize skipBlanks cs = next at hread ⊢
  split at hread
  · cases hread
  · exact hread
  · split at hread
    · next hitem =>
        simp only [h hitem]
        exact readItems_widens h limit _ hread
    · cases hread

theorem readMember_widens (limit : Nat) :
    Widens (readMember element limit) (readMember wider limit) := by
  intro cs member rest hread
  rw [readMember] at hread ⊢
  generalize readCharacters limit [] cs = name at hread ⊢
  split at hread
  · cases hread
  · next tail =>
      generalize skipBlanks tail = next at hread ⊢
      split at hread
      · cases hread
      · split at hread
        · next hvalue =>
            simp only [h hvalue]
            exact hread
        · cases hread
      · cases hread

theorem readMembers_widens (bound limit : Nat) (read : List (String × Json)) :
    Widens (readMembers element bound limit read) (readMembers wider bound limit read) := by
  induction limit generalizing read with
  | zero => exact nofun
  | succ limit ih =>
      intro cs v rest hread
      rw [readMembers] at hread ⊢
      generalize skipBlanks cs = next at hread ⊢
      split at hread
      · cases hread
      · exact hread
      · next tail =>
          generalize skipBlanks tail = next at hread ⊢
          split at hread
          · cases hread
          · split at hread
            · next hmember =>
                simp only [readMember_widens h bound hmember]
                exact ih _ hread
            · cases hread
          · cases hread
          · cases hread
      · cases hread

theorem readObject_widens (limit : Nat) :
    Widens (readObject element limit) (readObject wider limit) := by
  intro cs v rest hread
  rw [readObject] at hread ⊢
  generalize skipBlanks cs = next at hread ⊢
  split at hread
  · cases hread
  · exact hread
  · split at hread
    · next hmember =>
        simp only [readMember_widens h limit hmember]
        exact readMembers_widens h limit limit _ hread
    · cases hread
  · cases hread

end Containers

theorem readValue_widens_succ (limit depth : Nat) :
    Widens (readValue limit depth) (readValue limit (depth + 1)) := by
  induction depth with
  | zero =>
      intro cs v rest hread
      rw [readValue.eq_def] at hread ⊢
      simp only at hread ⊢
      generalize skipBlanks cs = next at hread ⊢
      split at hread
      · cases hread
      · cases hread
      · exact hread
  | succ depth ih =>
      intro cs v rest hread
      rw [readValue.eq_def] at hread ⊢
      simp only at hread ⊢
      generalize skipBlanks cs = next at hread ⊢
      split at hread
      · exact readArray_widens ih limit hread
      · exact readObject_widens ih limit hread
      · exact hread

theorem readValue_widens (limit : Nat) {depth deeper : Nat} (hle : depth ≤ deeper) :
    Widens (readValue limit depth) (readValue limit deeper) := by
  induction hle with
  | refl => exact fun _ _ _ hread => hread
  | step _ ih => exact fun _ _ _ hread => readValue_widens_succ limit _ (ih hread)

namespace Denotes

variable {text : String} {v w : Json}

theorem unique (hv : Denotes text v) (hw : Denotes text w) : v = w := by
  obtain ⟨depth, rest, hread, -⟩ := hv
  obtain ⟨deeper, rest', hread', -⟩ := hw
  have hfirst := readValue_widens _ (Nat.le_max_left depth deeper) hread
  have hsecond := readValue_widens _ (Nat.le_max_right depth deeper) hread'
  cases hfirst.symm.trans hsecond
  rfl

theorem wellFormed (h : Denotes text v) : v.WellFormed := by
  obtain ⟨depth, rest, hread, -⟩ := h
  exact (readValue_yields _ depth _ v rest hread).1

end Denotes

theorem denotes_of_parse {text : String} {v : Json} (h : parse text = .ok v) :
    Denotes text v := by
  have hread : readDocument text.toList = .ok v := mapError_eq_ok.mp h
  rw [readDocument] at hread
  split at hread
  · cases hread
  · next hvalue =>
      split at hread
      · next hrest =>
          cases hread
          exact ⟨depthLimit, _, hvalue, hrest⟩
      · cases hread

theorem denotes_pretty_line {v : Json} (hv : v.WellFormed) (hback : v.ReadsBack) :
    Denotes (v.pretty ++ "\n") v := by
  have hblank : ∀ c ∈ ['\n'], isBlank c = true := List.forall_mem_singleton.mpr rfl
  have hrest : EndsNumber ['\n'] := endsNumber_blanks hblank endsNumber_nil
  have htext : (v.pretty ++ "\n").toList = v.writeIn .pretty 0 ++ ['\n'] := by
    rw [String.toList_append, pretty, String.toList_ofList, writePretty_eq_writeIn]
    rfl
  have hlimit : (v.writeIn .pretty 0).length < (v.writeIn .pretty 0 ++ ['\n']).length + 1 := by
    rw [List.length_append]
    omega
  have hread := readValue_writeIn hv .pretty v.depth 0 hlimit ['\n'] hrest
  rw [readWithin?, if_pos (Nat.le_refl _), hback] at hread
  refine ⟨v.depth, ['\n'], ?_, rfl⟩
  rw [htext]
  exact toOption_eq_some.mp hread

end HttpScenario.Json
