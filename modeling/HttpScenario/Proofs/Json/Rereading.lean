import HttpScenario.Proofs.Json.Alike
import HttpScenario.Proofs.Json.ReadBack
import HttpScenario.Proofs.Json.Reading

namespace HttpScenario

namespace Number

variable {n m k : Number}

theorem readBack?_inRange (hrange : n.InRange) (h : n.readBack? = some k) : k.InRange := by
  cases n with
  | int value =>
      cases h
      exact hrange
  | float x =>
      obtain ⟨⟨m, rest⟩, hread, rfl⟩ := Option.map_eq_some_iff.mp h
      exact Json.readNumber_yields _ _ _ _ (toOption_eq_some.mp hread)

theorem readBack?_zero (negative : Bool) :
    readBack? (.float { negative, code := 0 }) = some (.float { negative, code := 0 }) := by
  cases negative <;> decide +kernel

theorem exists_readBack? (h : n.same m = true) (hread : n.readBack? = some k) :
    ∃ l, m.readBack? = some l ∧ k.same l = true := by
  have hequal : n = m → ∃ l, m.readBack? = some l ∧ k.same l = true := by
    rintro rfl
    exact ⟨k, hread, k.same_refl⟩
  cases n with
  | int value =>
      cases m with
      | int other => exact hequal (congrArg int (beq_iff_eq.mp h))
      | float y => cases h
  | float x =>
      cases m with
      | int other => cases h
      | float y =>
          obtain ⟨sign, code, hlt⟩ := x
          obtain ⟨sign', code', hlt'⟩ := y
          obtain ⟨hcode, hsign⟩ := Binary64.same_iff.mp h
          simp only at hcode hsign
          subst hcode
          rcases hsign with hsign | hzero
          · exact hequal (by rw [hsign])
          · subst hzero
            rw [readBack?_zero] at hread
            cases hread
            exact ⟨_, readBack?_zero sign', h⟩

end Number

namespace Json

variable {v w v' : Json} {items others : List Json} {members : Members Json}

theorem Alike.depth_le (h : Alike v w) {limit : Nat} (hle : v.depth ≤ limit) :
    w.depth ≤ limit := by
  induction limit generalizing v w with
  | zero =>
      cases h.kind with
      | scalar _ hw => exact Nat.le_of_eq (depth_eq_zero hw)
      | arr => exact absurd hle (Nat.not_le_of_gt (depth_pos rfl))
      | obj => exact absurd hle (Nat.not_le_of_gt (depth_pos rfl))
  | succ limit ih =>
      cases h.kind with
      | scalar _ hw =>
          rw [depth_eq_zero hw]
          exact Nat.zero_le _
      | arr hitems =>
          refine depth_arr_le.mpr fun other hother => ?_
          obtain ⟨i, hi⟩ := List.mem_iff_getElem?.mp hother
          have hrel := forall₂_getElem? hitems i
          rw [hi] at hrel
          rcases rel_cases hrel with ⟨-, hnone⟩ | ⟨item, last, hitem, hlast, halike⟩
          · cases hnone
          · cases hlast
            exact ih halike (depth_arr_le.mp hle item (List.mem_of_getElem? hitem))
      | obj _ hothers hfind =>
          refine depth_obj_le.mpr fun other hother => ?_
          obtain ⟨value, hvalue, halike⟩ :=
            exists_alike_of_mem hothers (fun name => rel_symm (hfind name)) other hother
          exact ih halike.symm (depth_obj_le.mp hle _ (Members.mem_of_find? hvalue))

theorem Alike.depth_eq (h : Alike v w) : v.depth = w.depth :=
  Nat.le_antisymm (h.symm.depth_le (Nat.le_refl _)) (h.depth_le (Nat.le_refl _))

/-- Whatever is like a document is read back, as what is like that which the document is
read back as. -/
def RereadsAlike (v : Json) : Prop :=
  ∀ {w v'}, Alike v w → v.readBack? = some v' → ∃ w', w.readBack? = some w' ∧ Alike v' w'

theorem exists_readBackItems? (ih : ∀ item ∈ items, item.RereadsAlike)
    (h : List.Forall₂ Alike items others) {read : List Json}
    (hread : readBackItems? items = some read) :
    ∃ read', readBackItems? others = some read' ∧ List.Forall₂ Alike read read' := by
  induction h generalizing read with
  | nil =>
      cases hread
      exact ⟨[], rfl, .nil⟩
  | @cons item other items others hitem _ ih' =>
      obtain ⟨hfirst, hrest⟩ := List.forall_mem_cons.mp ih
      obtain ⟨value, hvalue, hread⟩ := Option.bind_eq_some_iff.mp hread
      obtain ⟨values, hvalues, rfl⟩ := Option.map_eq_some_iff.mp hread
      obtain ⟨value', hvalue', halike⟩ := hfirst hitem hvalue
      obtain ⟨values', hvalues', hrest⟩ := ih' hrest hvalues
      refine ⟨value' :: values', ?_, .cons halike hrest⟩
      rw [readBackItems?, hvalue', Option.bind_some, hvalues']
      rfl

theorem exists_readBackMembers?_iff :
    (∃ read, readBackMembers? members = some read) ↔
      ∀ member ∈ members, ∃ value, member.2.readBack? = some value := by
  induction members with
  | nil => exact iff_of_true ⟨[], rfl⟩ (List.forall_mem_nil _)
  | cons member members ih =>
      rw [List.forall_mem_cons, ← ih, readBackMembers?]
      simp only [Option.bind_eq_some_iff, Option.map_eq_some_iff]
      constructor
      · rintro ⟨_, value, hvalue, read, hread, rfl⟩
        exact ⟨⟨value, hvalue⟩, read, hread⟩
      · rintro ⟨⟨value, hvalue⟩, read, hread⟩
        exact ⟨_, value, hvalue, read, hread, rfl⟩

theorem exists_readBackMembers? {others : Members Json}
    (ih : ∀ member ∈ members, member.2.RereadsAlike) (hdistinct : members.Distinct)
    (hothers : others.Distinct)
    (h : ∀ name, Option.Rel Alike (members.find? name) (others.find? name))
    {read : Members Json} (hread : readBackMembers? members = some read) :
    ∃ read', readBackMembers? others = some read' ∧ Alike (.obj read) (.obj read') := by
  have hback := exists_readBackMembers?_iff.mp ⟨read, hread⟩
  have hothersback : ∀ other ∈ others, ∃ value, other.2.readBack? = some value := by
    intro other hother
    obtain ⟨value, hvalue, halike⟩ :=
      exists_alike_of_mem hothers (fun name => rel_symm (h name)) other hother
    have hmember := Members.mem_of_find? hvalue
    obtain ⟨back, hvalueback⟩ := hback _ hmember
    obtain ⟨back', hotherback, -⟩ := ih _ hmember halike.symm hvalueback
    exact ⟨back', hotherback⟩
  obtain ⟨read', hread'⟩ := exists_readBackMembers?_iff.mpr hothersback
  have hnames := names_readBackMembers? hread
  have hnames' := names_readBackMembers? hread'
  refine ⟨read', hread', alike_obj_iff.mpr ⟨?_, ?_, fun name => ?_⟩⟩
  · rw [Members.Distinct, hnames]
    exact hdistinct
  · rw [Members.Distinct, hnames']
    exact hothers
  · rw [find?_readBackMembers? hread, find?_readBackMembers? hread']
    rcases rel_cases (h name) with ⟨hnone, hnone'⟩ | ⟨value, other, hvalue, hother, halike⟩
    · rw [hnone, hnone']
      exact .none
    · have hmember := Members.mem_of_find? hvalue
      obtain ⟨back, hvalueback⟩ := hback _ hmember
      obtain ⟨back', hotherback, hboth⟩ := ih _ hmember halike hvalueback
      rw [hvalue, hother, Option.bind_some, Option.bind_some, hvalueback, hotherback]
      exact .some hboth

theorem rereadsAlike (v : Json) : v.RereadsAlike := by
  induction v with
  | null =>
      intro w v' h hread
      cases w with
      | null =>
          cases hread
          exact ⟨_, rfl, h⟩
      | _ => cases h.same
  | bool b =>
      intro w v' h hread
      cases w with
      | bool c =>
          cases hread
          exact ⟨_, rfl, h⟩
      | _ => cases h.same
  | num n =>
      intro w v' h hread
      cases w with
      | num m =>
          obtain ⟨k, hk, rfl⟩ := Option.map_eq_some_iff.mp hread
          obtain ⟨l, hl, hsame⟩ := Number.exists_readBack? h.same hk
          refine ⟨.num l, congrArg (Option.map Json.num) hl, ?_, ?_, hsame⟩
          · exact .num (Number.readBack?_inRange h.left.inRange hk)
          · exact .num (Number.readBack?_inRange h.right.inRange hl)
      | _ => cases h.same
  | str s =>
      intro w v' h hread
      cases w with
      | str t =>
          cases hread
          exact ⟨_, rfl, h⟩
      | _ => cases h.same
  | arr items ih =>
      intro w v' h hread
      cases h.kind with
      | scalar hv => cases hv
      | arr hitems =>
          obtain ⟨read, hitemsread, rfl⟩ := Option.map_eq_some_iff.mp hread
          obtain ⟨read', hread', halike⟩ := exists_readBackItems? ih hitems hitemsread
          exact ⟨.arr read', congrArg (Option.map Json.arr) hread', alike_arr_iff.mpr halike⟩
  | obj members ih =>
      intro w v' h hread
      cases h.kind with
      | scalar hv => cases hv
      | obj hdistinct hothers hfind =>
          obtain ⟨read, hmembersread, rfl⟩ := Option.map_eq_some_iff.mp hread
          obtain ⟨read', hread', halike⟩ :=
            exists_readBackMembers? ih hdistinct hothers hfind hmembersread
          exact ⟨.obj read', congrArg (Option.map Json.obj) hread', halike⟩

namespace Alike

theorem readBack? (h : Alike v w) : Option.Rel Alike v.readBack? w.readBack? := by
  cases hv : v.readBack? with
  | some v' =>
      obtain ⟨w', hw, halike⟩ := rereadsAlike v h hv
      rw [hw]
      exact .some halike
  | none =>
      cases hw : w.readBack? with
      | none => exact .none
      | some w' =>
          obtain ⟨v', hv', -⟩ := rereadsAlike w h.symm hw
          cases hv.symm.trans hv'

theorem parse_compact (h : Alike v w) :
    Option.Rel Alike (parse v.compact).toOption (parse w.compact).toOption := by
  rw [Json.parse_compact h.left, Json.parse_compact h.right, readWithin?, readWithin?, h.depth_eq]
  split
  · exact h.readBack?
  · exact .none

end Alike

end Json

end HttpScenario
