import HttpScenario.Proofs.Json.WellFormed
import Mathlib.Data.List.Perm.Subperm

namespace HttpScenario

theorem Binary64.same_iff {x y : Binary64} :
    x.same y = true ↔ x.code = y.code ∧ (x.negative = y.negative ∨ x.code = 0) := by
  simp [Binary64.same]

theorem Number.same_refl (n : Number) : n.same n = true := by
  cases n with
  | int value => exact beq_self_eq_true value
  | float x => exact Binary64.same_iff.mpr ⟨rfl, .inl rfl⟩

theorem Number.same_symm {n m : Number} (h : n.same m = true) : m.same n = true := by
  cases n with
  | int value =>
      cases m with
      | int other => exact beq_iff_eq.mpr (beq_iff_eq.mp h).symm
      | float y => cases h
  | float x =>
      cases m with
      | int other => cases h
      | float y =>
          obtain ⟨hcode, hsign⟩ := Binary64.same_iff.mp h
          refine Binary64.same_iff.mpr ⟨hcode.symm, ?_⟩
          rcases hsign with hsign | hzero
          · exact .inl hsign.symm
          · exact .inr (hcode ▸ hzero)

theorem Number.same_trans {n m k : Number} (hnm : n.same m = true) (hmk : m.same k = true) :
    n.same k = true := by
  cases n with
  | int value =>
      cases m with
      | int other => rwa [beq_iff_eq.mp hnm]
      | float y => cases hnm
  | float x =>
      cases m with
      | int other => cases hnm
      | float y =>
          cases k with
          | int last => cases hmk
          | float z =>
              obtain ⟨hxy, hsign⟩ := Binary64.same_iff.mp hnm
              obtain ⟨hyz, hsign'⟩ := Binary64.same_iff.mp hmk
              refine Binary64.same_iff.mpr ⟨hxy.trans hyz, ?_⟩
              rcases hsign with hsign | hzero
              · rcases hsign' with hsign' | hzero
                · exact .inl (hsign.trans hsign')
                · exact .inr (hxy.trans hzero)
              · exact .inr hzero

namespace Json

theorem sameItems_iff {items others : List Json} :
    sameItems items others = true ↔
      List.Forall₂ (fun item other => item.same other = true) items others := by
  induction items generalizing others with
  | nil => cases others <;> simp [sameItems]
  | cons item items ih => cases others <;> simp [sameItems, ih]

theorem sameMembers_iff {members others : Members Json} :
    sameMembers members others = true ↔
      ∀ member ∈ members, ∃ other, others.find? member.1 = some other ∧
        member.2.same other = true := by
  induction members with
  | nil => simp [sameMembers]
  | cons member members ih =>
      rw [sameMembers, Bool.and_eq_true, ih, List.forall_mem_cons]
      cases others.find? member.1 with
      | none => simp
      | some other => simp

theorem same_obj_iff {members others : Members Json} :
    same (.obj members) (.obj others) = true ↔
      members.length = others.length ∧
        ∀ member ∈ members, ∃ other, others.find? member.1 = some other ∧
          member.2.same other = true := by
  rw [same, Bool.and_eq_true, beq_iff_eq, sameMembers_iff]

theorem same_refl {v : Json} (hv : v.WellFormed) : v.same v = true := by
  induction hv with
  | null => rfl
  | bool b => exact beq_self_eq_true b
  | num hrange => exact Number.same_refl _
  | str s => exact beq_self_eq_true s
  | arr _ ih => exact sameItems_iff.mpr (List.forall₂_same.mpr ih)
  | obj hdistinct _ ih =>
      refine same_obj_iff.mpr ⟨rfl, ?_⟩
      intro member hmember
      exact ⟨member.2, Members.find?_of_mem hdistinct hmember, ih member hmember⟩

theorem names_subset_of_length_eq {members others : Members Json}
    (hdistinct : members.Distinct) (hlength : members.length = others.length)
    (hsubset : members.names ⊆ others.names) : others.names ⊆ members.names := by
  have hperm : members.names.Perm others.names := by
    refine (hdistinct.subperm hsubset).perm_of_length_le ?_
    simp only [Members.names, List.length_map, hlength, Nat.le_refl]
  exact hperm.symm.subset

theorem same_obj_symm {members others : Members Json} (hdistinct : members.Distinct)
    (hothers : others.Distinct)
    (hsymm : ∀ member ∈ members, ∀ other ∈ others,
      member.2.same other.2 = true → other.2.same member.2 = true)
    (h : same (.obj members) (.obj others) = true) : same (.obj others) (.obj members) = true := by
  obtain ⟨hlength, hmembers⟩ := same_obj_iff.mp h
  -- Looking up goes from `members` to `others` only. With equal lengths and distinct
  -- names every name of `others` is one of `members` as well.
  have hsubset : members.names ⊆ others.names := by
    intro name hname
    obtain ⟨member, hmember, rfl⟩ := List.mem_map.mp hname
    obtain ⟨other, hother, -⟩ := hmembers member hmember
    exact Members.mem_names_of_find? hother
  refine same_obj_iff.mpr ⟨hlength.symm, ?_⟩
  intro other hother
  have hname : other.1 ∈ members.names :=
    names_subset_of_length_eq hdistinct hlength hsubset (List.mem_map_of_mem hother)
  obtain ⟨member, hmember, hnames⟩ := List.mem_map.mp hname
  obtain ⟨found, hfound, hsame⟩ := hmembers member hmember
  rw [hnames, Members.find?_of_mem hothers hother] at hfound
  rw [← Option.some.inj hfound] at hsame
  refine ⟨member.2, ?_, hsymm member hmember other hother hsame⟩
  exact hnames ▸ Members.find?_of_mem hdistinct hmember

theorem same_symm {v w : Json} (hv : v.WellFormed) (hw : w.WellFormed)
    (h : v.same w = true) : w.same v = true := by
  induction hv generalizing w with
  | null =>
      cases w with
      | null => rfl
      | _ => cases h
  | bool b =>
      cases w with
      | bool c => exact beq_iff_eq.mpr (beq_iff_eq.mp h).symm
      | _ => cases h
  | num hrange =>
      cases w with
      | num m => exact Number.same_symm h
      | _ => cases h
  | str s =>
      cases w with
      | str t => exact beq_iff_eq.mpr (beq_iff_eq.mp h).symm
      | _ => cases h
  | @arr items _ ih =>
      cases w with
      | arr others =>
          have hitems := sameItems_iff.mp h
          refine sameItems_iff.mpr (List.forall₂_iff_get.mpr ⟨hitems.length_eq.symm, ?_⟩)
          intro i hi hi'
          have hsame := List.Forall₂.get hitems hi' hi
          exact ih _ (List.get_mem _ _) (hw.items _ (List.get_mem _ _)) hsame
      | _ => cases h
  | @obj members hdistinct _ ih =>
      cases w with
      | obj others =>
          exact same_obj_symm hdistinct hw.distinct
            (fun member hmember other hother => ih member hmember (hw.members other hother)) h
      | _ => cases h

theorem same_trans {u v w : Json} (huv : u.same v = true) (hvw : v.same w = true) :
    u.same w = true := by
  induction u generalizing v w with
  | null =>
      cases v with
      | null => exact hvw
      | _ => cases huv
  | bool b =>
      cases v with
      | bool c => rwa [beq_iff_eq.mp huv]
      | _ => cases huv
  | num n =>
      cases v with
      | num m =>
          cases w with
          | num k => exact Number.same_trans huv hvw
          | _ => cases hvw
      | _ => cases huv
  | str s =>
      cases v with
      | str t => rwa [beq_iff_eq.mp huv]
      | _ => cases huv
  | arr items ih =>
      cases v with
      | arr others =>
          cases w with
          | arr lasts =>
              have hitems := sameItems_iff.mp huv
              have hothers := sameItems_iff.mp hvw
              have hlength := hitems.length_eq.trans hothers.length_eq
              refine sameItems_iff.mpr (List.forall₂_iff_get.mpr ⟨hlength, ?_⟩)
              intro i hi hi'
              have hmiddle : i < others.length := hitems.length_eq ▸ hi
              exact ih _ (List.get_mem _ _) (List.Forall₂.get hitems hi hmiddle)
                (List.Forall₂.get hothers hmiddle hi')
          | _ => cases hvw
      | _ => cases huv
  | obj members ih =>
      cases v with
      | obj others =>
          cases w with
          | obj lasts =>
              obtain ⟨hlength, hmembers⟩ := same_obj_iff.mp huv
              obtain ⟨hlength', hothers⟩ := same_obj_iff.mp hvw
              refine same_obj_iff.mpr ⟨hlength.trans hlength', ?_⟩
              intro member hmember
              obtain ⟨other, hother, hsame⟩ := hmembers member hmember
              obtain ⟨last, hlast, hsame'⟩ := hothers _ (Members.mem_of_find? hother)
              exact ⟨last, hlast, ih member hmember hsame hsame'⟩
          | _ => cases hvw
      | _ => cases huv

theorem same_congr {v v' w w' : Json} (hv : v.WellFormed) (hv' : v'.WellFormed)
    (hw : w.WellFormed) (hw' : w'.WellFormed) (hvv' : v.same v' = true)
    (hww' : w.same w' = true) : v.same w = v'.same w' := by
  rw [Bool.eq_iff_iff]
  constructor
  · intro h
    exact same_trans (same_trans (same_symm hv hv' hvv') h) hww'
  · intro h
    exact same_trans (same_trans hvv' h) (same_symm hw hw' hww')

end Json

end HttpScenario
