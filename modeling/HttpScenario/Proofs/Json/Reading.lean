import HttpScenario.Proofs.Json.WellFormed
import HttpScenario.Json.Reader

namespace HttpScenario.Json

/-- Whatever a reader takes has a property. -/
def Yields {α : Type} (read : List Char → Except Stop (α × List Char)) (property : α → Prop) :
    Prop :=
  ∀ cs value rest, read cs = .ok (value, rest) → property value

theorem gather_lt {significand : Nat} (h : significand < significandLimit) (count : Nat)
    (cs : List Char) : (gather significand count cs).significand < significandLimit := by
  induction cs generalizing significand count with
  | nil => exact h
  | cons c cs ih =>
      rw [gather]
      split
      · exact h
      · split
        · next hfits => exact ih hfits (count + 1)
        · exact h

theorem finishFloat_yields (negative : Bool) (significand : Nat) (exponent : Int) :
    Yields (finishFloat negative significand exponent) Number.InRange := by
  intro cs n rest h
  rw [finishFloat] at h
  split at h
  · cases h
    trivial
  · cases h

theorem readExponent_yields (negative : Bool) (significand : Nat) (start : Int) :
    Yields (readExponent negative significand start) Number.InRange := by
  intro cs n rest h
  simp only [readExponent] at h
  split at h
  all_goals
    split at h
    · cases h
    · split at h
      · cases h
      · split at h
        · exact finishFloat_yields negative significand _ _ n rest h
        · split at h
          · cases h
          · cases h
            trivial

theorem readFloatTail_yields (negative : Bool) (significand : Nat) (exponent : Int) :
    Yields (readFloatTail negative significand exponent) Number.InRange := by
  intro cs n rest h
  rw [readFloatTail.eq_def] at h
  split at h
  · exact readExponent_yields negative significand exponent _ n rest h
  · exact readExponent_yields negative significand exponent _ n rest h
  · exact finishFloat_yields negative significand exponent _ n rest h

theorem readFraction_yields (negative : Bool) (significand : Nat) (exponent : Int) :
    Yields (readFraction negative significand exponent) Number.InRange := by
  intro cs n rest h
  rw [readFraction] at h
  split at h
  · exact readFloatTail_yields negative _ _ _ n rest h
  · split at h
    · cases h
    · exact readFloatTail_yields negative _ _ _ n rest h

theorem ofInteger_inRange {negative : Bool} {significand : Nat}
    (hlimit : significand < significandLimit) {n : Number}
    (h : ofInteger negative significand = .ok n) : n.InRange := by
  have hpow : significand < 2 ^ 64 := hlimit
  rw [ofInteger] at h
  split at h
  · cases h
    exact ⟨by omega, by omega⟩
  · split at h
    · split at h
      · cases h
        trivial
      · cases h
    · next hrange =>
        have hle : significand ≤ 2 ^ 63 := Nat.le_of_not_lt fun hlt => hrange (.inr hlt)
        cases h
        exact ⟨by omega, by omega⟩

theorem readNumberTail_inRange {negative : Bool} {taken : Gathered}
    (hlimit : taken.significand < significandLimit) {n : Number} {rest : List Char}
    (h : readNumberTail negative taken = .ok (n, rest)) : n.InRange := by
  rw [readNumberTail] at h
  split at h
  · exact readFraction_yields negative _ _ _ n rest h
  · exact readExponent_yields negative _ _ _ n rest h
  · exact readExponent_yields negative _ _ _ n rest h
  · split at h
    · split at h
      · next hinteger =>
          cases h
          exact ofInteger_inRange hlimit hinteger
      · cases h
    · exact finishFloat_yields negative _ _ _ n rest h

theorem readNumber_yields (negative : Bool) : Yields (readNumber negative) Number.InRange := by
  intro cs n rest h
  rw [readNumber.eq_def] at h
  have hzero : 0 < significandLimit := Nat.two_pow_pos 64
  split at h
  · cases h
  · split at h
    · cases h
    · exact readNumberTail_inRange hzero h
  · split at h
    · exact readNumberTail_inRange (gather_lt hzero 0 _) h
    · cases h

def WellFormedWithin (depth : Nat) (v : Json) : Prop := v.WellFormed ∧ v.depth ≤ depth

theorem readWord_value {value v : Json} {word cs rest : List Char}
    (h : readWord value word cs = .ok (v, rest)) : v = value := by
  induction word generalizing cs with
  | nil =>
      cases h
      rfl
  | cons c word ih =>
      cases cs with
      | nil => cases h
      | cons d cs =>
          rw [readWord] at h
          split at h
          · exact ih h
          · cases h

theorem readScalar_yields (limit depth : Nat) :
    Yields (readScalar limit) (WellFormedWithin depth) := by
  intro cs v rest h
  have hscalar : v.WellFormed ∧ v.isContainer = false := by
    rw [readScalar.eq_def] at h
    split at h
    · cases h
    · rw [readWord_value h]
      exact ⟨.null, rfl⟩
    · rw [readWord_value h]
      exact ⟨.bool true, rfl⟩
    · rw [readWord_value h]
      exact ⟨.bool false, rfl⟩
    · split at h
      · cases h
        exact ⟨.str _, rfl⟩
      · cases h
    · split at h
      · next hnumber =>
          cases h
          exact ⟨.num (readNumber_yields true _ _ _ hnumber), rfl⟩
      · cases h
    · split at h
      · split at h
        · next hnumber =>
            cases h
            exact ⟨.num (readNumber_yields false _ _ _ hnumber), rfl⟩
        · cases h
      · cases h
  exact ⟨hscalar.1, by rw [depth_eq_zero hscalar.2]; exact Nat.zero_le depth⟩

section Containers

variable {element : List Char → Read} {property : Json → Prop}
  (helement : Yields element property)

include helement

theorem readItems_yields {limit : Nat} {read : List Json} {cs rest : List Char} {v : Json}
    (hread : ∀ item ∈ read, property item)
    (h : readItems element limit read cs = .ok (v, rest)) :
    ∃ items, v = .arr items ∧ ∀ item ∈ items, property item := by
  induction limit generalizing read cs with
  | zero => cases h
  | succ limit ih =>
      rw [readItems] at h
      split at h
      · cases h
      · cases h
        refine ⟨read.reverse, rfl, ?_⟩
        intro item hitem
        exact hread item (List.mem_reverse.mp hitem)
      · split at h
        · cases h
        · cases h
        · split at h
          · next item _ hitem =>
              exact ih (List.forall_mem_cons.mpr ⟨helement _ item _ hitem, hread⟩) h
          · cases h
      · cases h

theorem readArray_yields {limit : Nat} {cs rest : List Char} {v : Json}
    (h : readArray element limit cs = .ok (v, rest)) :
    ∃ items, v = .arr items ∧ ∀ item ∈ items, property item := by
  rw [readArray] at h
  split at h
  · cases h
  · cases h
    exact ⟨[], rfl, List.forall_mem_nil _⟩
  · split at h
    · next item _ hitem =>
        have hfirst : ∀ other ∈ [item], property other := by
          simpa using helement _ item _ hitem
        exact readItems_yields helement hfirst h
    · cases h

theorem readMember_yields (limit : Nat) :
    Yields (readMember element limit) fun member => property member.2 := by
  intro cs member rest h
  rw [readMember] at h
  split at h
  · cases h
  · split at h
    · cases h
    · split at h
      · next value _ hvalue =>
          cases h
          exact helement _ value _ hvalue
      · cases h
    · cases h

theorem readMembers_yields {bound limit : Nat} {read : List (String × Json)}
    {cs rest : List Char} {v : Json} (hread : ∀ member ∈ read, property member.2)
    (h : readMembers element bound limit read cs = .ok (v, rest)) :
    ∃ members : Members Json, v = .obj members ∧ members.Distinct ∧
      ∀ member ∈ members, property member.2 := by
  induction limit generalizing read cs with
  | zero => cases h
  | succ limit ih =>
      rw [readMembers] at h
      split at h
      · cases h
      · cases h
        refine ⟨Members.ofPairs read.reverse, rfl, Members.ofPairs_distinct _, ?_⟩
        apply Members.forall_ofPairs
        intro pair hpair
        exact hread pair (List.mem_reverse.mp hpair)
      · split at h
        · cases h
        · split at h
          · next member _ hmember =>
              have hnext := readMember_yields helement bound _ member _ hmember
              exact ih (List.forall_mem_cons.mpr ⟨hnext, hread⟩) h
          · cases h
        · cases h
        · cases h
      · cases h

theorem readObject_yields {limit : Nat} {cs rest : List Char} {v : Json}
    (h : readObject element limit cs = .ok (v, rest)) :
    ∃ members : Members Json, v = .obj members ∧ members.Distinct ∧
      ∀ member ∈ members, property member.2 := by
  rw [readObject] at h
  split at h
  · cases h
  · cases h
    exact ⟨[], rfl, Members.distinct_nil, List.forall_mem_nil _⟩
  · split at h
    · next member _ hmember =>
        have hfirst : ∀ other ∈ [member], property other.2 := by
          simpa using readMember_yields helement limit _ member _ hmember
        exact readMembers_yields helement hfirst h
    · cases h
  · cases h

end Containers

theorem WellFormedWithin.arr {depth : Nat} {items : List Json}
    (h : ∀ item ∈ items, WellFormedWithin depth item) :
    WellFormedWithin (depth + 1) (.arr items) :=
  ⟨.arr fun item hitem => (h item hitem).1, depth_arr_le.mpr fun item hitem => (h item hitem).2⟩

theorem WellFormedWithin.obj {depth : Nat} {members : Members Json}
    (hdistinct : members.Distinct) (h : ∀ member ∈ members, WellFormedWithin depth member.2) :
    WellFormedWithin (depth + 1) (.obj members) :=
  ⟨.obj hdistinct fun member hmember => (h member hmember).1,
    depth_obj_le.mpr fun member hmember => (h member hmember).2⟩

theorem readValue_yields (limit depth : Nat) :
    Yields (readValue limit depth) (WellFormedWithin depth) := by
  induction depth with
  | zero =>
      intro cs v rest h
      rw [readValue] at h
      split at h
      · cases h
      · cases h
      · exact readScalar_yields limit 0 _ v rest h
  | succ depth ih =>
      intro cs v rest h
      rw [readValue] at h
      split at h
      · obtain ⟨items, rfl, hitems⟩ := readArray_yields ih h
        exact .arr hitems
      · obtain ⟨members, rfl, hdistinct, hmembers⟩ := readObject_yields ih h
        exact .obj hdistinct hmembers
      · exact readScalar_yields limit (depth + 1) _ v rest h

theorem wellFormedWithin_of_parse {text : String} {v : Json} (h : parse text = .ok v) :
    WellFormedWithin depthLimit v := by
  have hread : readDocument text.toList = .ok v := by
    rw [parse] at h
    cases hdocument : readDocument text.toList with
    | ok w =>
        rw [hdocument] at h
        exact congrArg _ (Except.ok.inj h)
    | error stop =>
        rw [hdocument] at h
        cases h
  rw [readDocument] at hread
  split at hread
  · cases hread
  · next value rest hvalue =>
      split at hread
      · cases hread
        exact readValue_yields _ depthLimit _ v rest hvalue
      · cases hread

theorem wellFormed_of_parse {text : String} {v : Json} (h : parse text = .ok v) : v.WellFormed :=
  (wellFormedWithin_of_parse h).1

theorem depth_le_of_parse {text : String} {v : Json} (h : parse text = .ok v) :
    v.depth ≤ depthLimit :=
  (wellFormedWithin_of_parse h).2

end HttpScenario.Json
