import HttpScenario.Proofs.Json.Members
import HttpScenario.Table
import Mathlib.Data.List.Basic

namespace HttpScenario.Table

variable {α : Type}

theorem ext {table other : Table α} (h : table.entries = other.entries) : table = other := by
  cases table
  cases other
  cases h
  rfl

theorem find?_insertEntry (key other : String) (value : α) (entries : List (String × α)) :
    ((insertEntry key value entries).find? (·.1 == other)).map Prod.snd =
      if other = key then some value
      else (entries.find? (·.1 == other)).map Prod.snd := by
  induction entries with
  | nil =>
      by_cases h : other = key
      · simp [insertEntry, h]
      · simp [insertEntry, h, Ne.symm h]
  | cons entry rest ih =>
      rw [insertEntry]
      split
      · by_cases h : other = key
        · simp [h]
        · simp [h, Ne.symm h]
      · split
        · next heq =>
            by_cases h : other = key
            · simp [h]
            · simp [h, Ne.symm h, ← heq]
        · next hne =>
            by_cases hentry : entry.1 = other
            · have h : other ≠ key := fun heq => hne (heq.symm.trans hentry.symm)
              simp [hentry, h]
            · rw [List.find?_cons_of_neg (by simpa using hentry), ih,
                List.find?_cons_of_neg (by simpa using hentry)]

theorem find?_insert (table : Table α) (key other : String) (value : α) :
    (table.insert key value).find? other =
      if other = key then some value else table.find? other :=
  find?_insertEntry key other value table.entries

theorem find?_insertNew (table : Table α) (key other : String) (value : α) :
    (table.insertNew key value).find? other =
      (table.find? other).or (if other = key then some value else none) := by
  rw [insertNew, contains]
  by_cases h : other = key
  · subst h
    cases hfound : table.find? other with
    | none => simp [find?_insert]
    | some found => simp [hfound]
  · rw [if_neg h, Option.or_none]
    split
    · rfl
    · rw [find?_insert, if_neg h]

theorem find?_foldl_insert (table : Table α) (pairs : List (String × α)) (key : String) :
    (pairs.foldl (fun table pair => table.insert pair.1 pair.2) table).find? key =
      (Members.lastOf? key pairs).or (table.find? key) := by
  induction pairs using List.reverseRecOn with
  | nil => rfl
  | append_singleton pairs pair ih =>
      rw [List.foldl_append, List.foldl_cons, List.foldl_nil, find?_insert, ih,
        Members.lastOf?_concat]
      by_cases h : pair.1 = key
      · rw [if_pos h, if_pos h.symm, Option.some_or]
      · rw [if_neg h, if_neg (Ne.symm h)]

theorem insertEntry_of_last {key : String} {value : α} {entries : List (String × α)}
    (h : ∀ entry ∈ entries, entry.1 < key) :
    insertEntry key value entries = entries ++ [(key, value)] := by
  induction entries with
  | nil => rfl
  | cons entry rest ih =>
      obtain ⟨hentry, hrest⟩ := List.forall_mem_cons.mp h
      have hne : key ≠ entry.1 := by
        rintro rfl
        exact String.lt_irrefl _ hentry
      rw [insertEntry, if_neg (String.lt_asymm hentry), if_neg hne, ih hrest]
      rfl

theorem entries_foldl_insert {table : Table α} {entries : List (String × α)}
    (h : (table.entries ++ entries).Pairwise fun a b => a.1 < b.1) :
    (entries.foldl (fun table entry => table.insert entry.1 entry.2) table).entries =
      table.entries ++ entries := by
  induction entries generalizing table with
  | nil => simp
  | cons entry rest ih =>
      have hlast : ∀ other ∈ table.entries, other.1 < entry.1 := fun other hother =>
        (List.pairwise_append.mp h).2.2 other hother entry List.mem_cons_self
      have hinsert : (table.insert entry.1 entry.2).entries = table.entries ++ [entry] :=
        insertEntry_of_last hlast
      rw [List.foldl_cons, ih, hinsert, List.append_assoc]
      · rfl
      · rw [hinsert, List.append_assoc]
        exact h

theorem mem_of_mem_foldl_insert {table : Table α} {pairs : List (String × α)}
    {entry : String × α}
    (h : entry ∈ (pairs.foldl (fun table pair => table.insert pair.1 pair.2) table).entries) :
    entry ∈ table.entries ∨ entry ∈ pairs := by
  induction pairs generalizing table with
  | nil => exact .inl h
  | cons pair pairs ih =>
      rcases ih h with hentry | hentry
      · rcases mem_insertEntry hentry with rfl | hentry
        · exact .inr List.mem_cons_self
        · exact .inl hentry
      · exact .inr (List.mem_cons_of_mem _ hentry)

theorem mem_of_mem_ofList {pairs : List (String × α)} {entry : String × α}
    (h : entry ∈ (ofList pairs).entries) : entry ∈ pairs := by
  rcases mem_of_mem_foldl_insert h with hnone | hentry
  · cases hnone
  · exact hentry

theorem find?_ofList (pairs : List (String × α)) (key : String) :
    (ofList pairs).find? key = Members.lastOf? key pairs := by
  have hnone : (∅ : Table α).find? key = none := rfl
  rw [ofList, find?_foldl_insert, hnone, Option.or_none]

theorem ofList_entries (table : Table α) : ofList table.entries = table :=
  ext (entries_foldl_insert table.sorted)

theorem getLast?_eq_some_iff {entries : List (String × α)}
    (hsorted : entries.Pairwise fun a b => a.1 < b.1) {entry : String × α} :
    entries.getLast? = some entry ↔
      entry ∈ entries ∧ ∀ other ∈ entries, other = entry ∨ other.1 < entry.1 := by
  rcases List.eq_nil_or_concat entries with rfl | ⟨before, last, rfl⟩
  · exact ⟨nofun, fun h => nomatch h.1⟩
  · rw [List.concat_eq_append] at hsorted ⊢
    have hbefore : ∀ other ∈ before, other.1 < last.1 := fun other hother =>
      (List.pairwise_append.mp hsorted).2.2 other hother last List.mem_cons_self
    have hlast : last ∈ before ++ [last] := List.mem_append_right _ List.mem_cons_self
    rw [List.getLast?_concat]
    constructor
    · intro h
      cases h
      refine ⟨hlast, fun other hother => ?_⟩
      rcases List.mem_append.mp hother with hother | hother
      · exact .inr (hbefore other hother)
      · exact .inl (List.mem_singleton.mp hother)
    · intro ⟨hentry, hgreatest⟩
      rcases hgreatest last hlast with heq | hlt
      · exact congrArg some heq
      · rcases List.mem_append.mp hentry with hentry | hentry
        · exact absurd hlt (String.lt_asymm (hbefore entry hentry))
        · exact congrArg some (List.mem_singleton.mp hentry).symm

def rename (ρ : String → String) (table : Table α) : Table α :=
  ofList (table.entries.map fun entry => (ρ entry.1, entry.2))

theorem find?_eq_lastOf? (table : Table α) (key : String) :
    table.find? key = Members.lastOf? key table.entries := by
  rw [← find?_ofList, ofList_entries]

theorem mem_entries_of_find? {table : Table α} {key : String} {value : α}
    (h : table.find? key = some value) : (key, value) ∈ table.entries := by
  obtain ⟨entry, hentry, hvalue⟩ := Option.map_eq_some_iff.mp h
  have hkey : entry.1 = key := by simpa using List.find?_some hentry
  rw [← hkey, ← hvalue]
  exact List.mem_of_find?_eq_some hentry

theorem keys_nodup (table : Table α) : (table.entries.map Prod.fst).Nodup := by
  rw [List.nodup_iff_pairwise_ne, List.pairwise_map]
  apply table.sorted.imp
  intro first second hlt heq
  exact String.lt_irrefl _ (heq ▸ hlt)

theorem mem_entries_iff {table : Table α} {entry : String × α} :
    entry ∈ table.entries ↔ table.find? entry.1 = some entry.2 := by
  constructor
  · intro h
    cases hfound : table.find? entry.1 with
    | none =>
        have hnone : table.entries.find? (·.1 == entry.1) = none := Option.map_eq_none_iff.mp hfound
        exact absurd (beq_self_eq_true entry.1) (List.find?_eq_none.mp hnone entry h)
    | some value =>
        have hmem := mem_entries_of_find? hfound
        rw [← List.inj_on_of_nodup_map table.keys_nodup hmem h rfl]
  · exact mem_entries_of_find?

theorem ext_find? {table other : Table α} (h : ∀ key, table.find? key = other.find? key) :
    table = other := by
  have hmem : ∀ entry, entry ∈ table.entries ↔ entry ∈ other.entries := by
    intro entry
    rw [mem_entries_iff, mem_entries_iff, h]
  have hperm : table.entries.Perm other.entries :=
    (List.perm_ext_iff_of_nodup (.of_map _ table.keys_nodup) (.of_map _ other.keys_nodup)).mpr hmem
  apply ext
  exact hperm.eq_of_pairwise (fun _ _ _ _ hlt hgt => absurd hgt (String.lt_asymm hlt))
    table.sorted other.sorted

theorem exists_of_mem_rename {ρ : String → String} {table : Table α} {entry : String × α}
    (h : entry ∈ (table.rename ρ).entries) :
    ∃ old ∈ table.entries, entry = (ρ old.1, old.2) := by
  obtain ⟨old, hold, heq⟩ := List.mem_map.mp (mem_of_mem_ofList h)
  exact ⟨old, hold, heq.symm⟩

theorem find?_rename {ρ : String → String} {table : Table α} {key : String}
    (hinj : ∀ entry ∈ table.entries, ρ entry.1 = ρ key → entry.1 = key) :
    (table.rename ρ).find? (ρ key) = table.find? key := by
  rw [rename, find?_ofList, find?_eq_lastOf?, Members.lastOf?, Members.lastOf?, List.filter_map,
    List.getLast?_map, Option.map_map]
  have hfilter : table.entries.filter ((fun entry => decide (entry.1 = ρ key)) ∘
      fun entry => (ρ entry.1, entry.2)) = table.entries.filter (fun entry => entry.1 = key) := by
    apply List.filter_congr
    intro entry hentry
    exact decide_eq_decide.mpr ⟨hinj entry hentry, congrArg ρ⟩
  rw [hfilter]
  rfl

end HttpScenario.Table
