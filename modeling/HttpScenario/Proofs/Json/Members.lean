import HttpScenario.Json.Members
import Mathlib.Data.List.Induction
import Mathlib.Data.List.Nodup

namespace HttpScenario.Members

variable {α : Type} {name : String} {value : α} {members : Members α}

def Distinct (members : Members α) : Prop := members.names.Nodup

@[simp] theorem names_cons (member : String × α) (members : Members α) :
    names (member :: members) = member.1 :: names members := rfl

@[simp] theorem names_append (first second : Members α) :
    names (first ++ second) = names first ++ names second :=
  List.map_append

theorem distinct_cons {member : String × α} :
    Distinct (member :: members) ↔ member.1 ∉ members.names ∧ Distinct members :=
  List.nodup_cons

theorem mem_of_find? (h : members.find? name = some value) : (name, value) ∈ members := by
  induction members with
  | nil => cases h
  | cons member rest ih =>
      rw [find?] at h
      split at h
      · next hname =>
          rw [← hname, ← Option.some.inj h]
          exact List.mem_cons_self
      · exact List.mem_cons_of_mem _ (ih h)

theorem find?_of_mem (hdistinct : members.Distinct) (h : (name, value) ∈ members) :
    members.find? name = some value := by
  induction members with
  | nil => cases h
  | cons member rest ih =>
      obtain ⟨hfresh, hrest⟩ := distinct_cons.mp hdistinct
      rcases List.mem_cons.mp h with rfl | h
      · simp [find?]
      · have hne : member.1 ≠ name := by
          intro heq
          exact hfresh (heq ▸ List.mem_map_of_mem h)
        rw [find?, if_neg hne]
        exact ih hrest h

theorem find?_eq_none_iff : members.find? name = none ↔ name ∉ members.names := by
  induction members with
  | nil => simp [find?, names]
  | cons member rest ih =>
      rw [find?]
      split
      · next hname => simp [hname]
      · next hname => simp [ih, Ne.symm hname]

theorem mem_names_of_find? (h : members.find? name = some value) : name ∈ members.names := by
  apply Decidable.byContradiction
  intro hnot
  rw [find?_eq_none_iff.mpr hnot] at h
  cases h

theorem names_put_of_mem (h : name ∈ members.names) (value : α) :
    (members.put name value).names = members.names := by
  induction members with
  | nil => cases h
  | cons member rest ih =>
      rw [put]
      split
      · rfl
      · next hne =>
          rcases List.mem_cons.mp h with h | h
          · exact absurd h.symm hne
          · simp [ih h]

theorem put_of_not_mem (h : name ∉ members.names) (value : α) :
    members.put name value = members ++ [(name, value)] := by
  induction members with
  | nil => rfl
  | cons member rest ih =>
      have hne : member.1 ≠ name := fun heq => h (heq ▸ List.mem_cons_self)
      have hrest : name ∉ names rest := fun hmem => h (List.mem_cons_of_mem _ hmem)
      rw [put, if_neg hne, ih hrest]
      rfl

theorem names_put (name : String) (value : α) (members : Members α) :
    (members.put name value).names = members.names ++ [name].filter (· ∉ members.names) := by
  by_cases h : name ∈ members.names
  · rw [names_put_of_mem h, List.filter_cons_of_neg (by simp [h])]
    simp
  · rw [put_of_not_mem h, names_append, List.filter_cons_of_pos (by simp [h])]
    rfl

theorem Distinct.put (hdistinct : members.Distinct) (name : String) (value : α) :
    (members.put name value).Distinct := by
  by_cases h : name ∈ members.names
  · rw [Distinct, names_put_of_mem h]
    exact hdistinct
  · rw [Distinct, put_of_not_mem h, names_append]
    refine List.nodup_append.mpr ⟨hdistinct, List.nodup_singleton name, ?_⟩
    intro other hother last hlast heq
    have hname : last = name := List.mem_singleton.mp hlast
    exact h (hname ▸ heq ▸ hother)

theorem eq_or_mem_of_mem_put {member : String × α} (h : member ∈ members.put name value) :
    member = (name, value) ∨ member ∈ members := by
  induction members with
  | nil => exact .inl (List.mem_singleton.mp h)
  | cons first rest ih =>
      rw [put] at h
      split at h
      · next hname =>
        rcases List.mem_cons.mp h with rfl | h
        · exact .inl (congrArg (·, value) hname)
        · exact .inr (List.mem_cons_of_mem _ h)
      · rcases List.mem_cons.mp h with rfl | h
        · exact .inr List.mem_cons_self
        · rcases ih h with h | h
          · exact .inl h
          · exact .inr (List.mem_cons_of_mem _ h)

theorem forall_put {motive : String × α → Prop} (hmembers : ∀ member ∈ members, motive member)
    (hvalue : motive (name, value)) : ∀ member ∈ members.put name value, motive member := by
  intro member hmember
  rcases eq_or_mem_of_mem_put hmember with rfl | hmem
  · exact hvalue
  · exact hmembers member hmem

theorem find?_put (name other : String) (value : α) (members : Members α) :
    (members.put name value).find? other =
      if other = name then some value else members.find? other := by
  split
  · next heq => rw [heq, find?_put_self]
  · next hne => exact find?_put_of_ne hne value members

theorem find?_put_comm {name key : String} (hne : name ≠ key) (other : String)
    (value value' : α) (members : Members α) :
    ((members.put name value).put key value').find? other =
      ((members.put key value').put name value).find? other := by
  simp only [find?_put]
  by_cases h : other = key
  · have h' : other ≠ name := fun heq => hne (heq.symm.trans h)
    rw [if_pos h, if_neg h', if_pos h]
  · rw [if_neg h, if_neg h]

theorem put_eq_self (h : members.find? name = some value) : members.put name value = members := by
  induction members with
  | nil => cases h
  | cons member rest ih =>
      rw [find?] at h
      rw [put]
      split at h
      · next hname =>
          rw [if_pos hname, ← Option.some.inj h]
      · next hname => rw [if_neg hname, ih h]

theorem put_put (name : String) (old value : α) (members : Members α) :
    (members.put name old).put name value = members.put name value := by
  induction members with
  | nil => simp [put]
  | cons member rest ih =>
      by_cases h : member.1 = name
      · simp [put, h]
      · simp [put, h, ih]

theorem put_comm {other : String} (hne : name ≠ other) (hname : name ∈ members.names)
    (hother : other ∈ members.names) (value value' : α) :
    (members.put name value).put other value' = (members.put other value').put name value := by
  induction members with
  | nil => cases hname
  | cons member rest ih =>
      rw [names_cons, List.mem_cons] at hname hother
      by_cases h : member.1 = name
      · have hfirst : member.1 ≠ other := fun heq => hne (h.symm.trans heq)
        simp [put, h, hne]
      · by_cases h' : member.1 = other
        · simp [put, h', Ne.symm hne]
        · have hrest := ih (hname.resolve_left (Ne.symm h)) (hother.resolve_left (Ne.symm h'))
          simp [put, h, h', hrest]

theorem names_erase (name : String) (members : Members α) :
    (members.erase name).names = members.names.filter (· ≠ name) := by
  induction members with
  | nil => rfl
  | cons member rest ih =>
      by_cases h : member.1 = name
      · rw [erase, List.filter_cons_of_neg (by simp [h]), names_cons,
          List.filter_cons_of_neg (by simp [h])]
        exact ih
      · rw [erase, List.filter_cons_of_pos (by simp [h]), names_cons, names_cons,
          List.filter_cons_of_pos (by simp [h])]
        exact congrArg (member.1 :: ·) ih

theorem erase_eq_self (h : name ∉ members.names) : members.erase name = members := by
  apply List.filter_eq_self.mpr
  intro member hmember
  have hne : member.1 ≠ name := fun heq => h (heq ▸ List.mem_map_of_mem hmember)
  simp [hne]

theorem erase_erase_self (name : String) (members : Members α) :
    (members.erase name).erase name = members.erase name :=
  List.filter_filter.trans (by simp [erase])

theorem erase_comm (name other : String) (members : Members α) :
    (members.erase name).erase other = (members.erase other).erase name :=
  List.filter_comm _ _ members

theorem erase_put_self (name : String) (value : α) (members : Members α) :
    (members.put name value).erase name = members.erase name := by
  induction members with
  | nil => simp [put, erase]
  | cons member rest ih =>
      by_cases h : member.1 = name
      · simp [put, erase, h]
      · simp only [erase] at ih
        simp [put, erase, h, ih]

theorem erase_put_of_ne {other : String} (hne : other ≠ name) (value : α)
    (members : Members α) :
    (members.put name value).erase other = (members.erase other).put name value := by
  induction members with
  | nil => simp [put, erase, Ne.symm hne]
  | cons member rest ih =>
      simp only [erase] at ih
      by_cases h : member.1 = name
      · simp [put, erase, h, Ne.symm hne]
      · by_cases h' : member.1 = other
        · simp [put, erase, h', hne, ih]
        · simp [put, erase, h, h', ih]

theorem mem_of_mem_erase {member : String × α} (h : member ∈ members.erase name) :
    member ∈ members :=
  (List.mem_filter.mp h).1

theorem Distinct.erase (hdistinct : members.Distinct) (name : String) :
    (members.erase name).Distinct :=
  hdistinct.sublist (List.filter_sublist.map Prod.fst)

theorem find?_erase_of_ne {other : String} (h : other ≠ name) (members : Members α) :
    (members.erase name).find? other = members.find? other := by
  induction members with
  | nil => rfl
  | cons member rest ih =>
      by_cases hname : member.1 = name
      · have hother : member.1 ≠ other := fun heq => h (heq.symm.trans hname)
        rw [erase, List.filter_cons_of_neg (by simp [hname]), find?, if_neg hother]
        exact ih
      · rw [erase, List.filter_cons_of_pos (by simp [hname]), find?, find?]
        split
        · rfl
        · exact ih

theorem foldl_put_of_distinct {first second : Members α} (h : Distinct (first ++ second)) :
    second.foldl (fun members pair => members.put pair.1 pair.2) first = first ++ second := by
  induction second generalizing first with
  | nil => simp
  | cons pair rest ih =>
      have hfresh : pair.1 ∉ first.names := by
        intro hmem
        rw [Distinct, names_append, names_cons] at h
        exact (List.nodup_append.mp h).2.2 _ hmem _ List.mem_cons_self rfl
      rw [List.foldl_cons, put_of_not_mem hfresh]
      have hshift : first ++ [(pair.1, pair.2)] ++ rest = first ++ pair :: rest := by simp
      rw [ih (by rw [hshift]; exact h), hshift]

theorem ofPairs_of_distinct (h : members.Distinct) : ofPairs members = members :=
  foldl_put_of_distinct (by simpa using h)

theorem foldl_put_distinct {first : Members α} (h : first.Distinct) (pairs : Members α) :
    (pairs.foldl (fun members pair => members.put pair.1 pair.2) first).Distinct := by
  induction pairs generalizing first with
  | nil => exact h
  | cons pair rest ih => exact ih (h.put pair.1 pair.2)

/-- Names that are set one after the other stay where they are, and new ones come at the end
in the order in which they are set. -/
theorem names_foldl_put (members : Members α) {pairs : Members α} (h : pairs.Distinct) :
    (pairs.foldl (fun members pair => members.put pair.1 pair.2) members).names =
      members.names ++ pairs.names.filter (· ∉ members.names) := by
  induction pairs generalizing members with
  | nil => simp [names]
  | cons pair rest ih =>
      obtain ⟨hfresh, hrest⟩ := distinct_cons.mp h
      have hsame : (names rest).filter (· ∉ (members.put pair.1 pair.2).names) =
          (names rest).filter (· ∉ members.names) := by
        apply List.filter_congr
        intro other hother
        have hne : other ≠ pair.1 := fun heq => hfresh (heq ▸ hother)
        simp [names_put, hne]
      rw [List.foldl_cons, ih _ hrest, hsame, names_put, names_cons, List.append_assoc,
        ← List.filter_append]
      rfl

/-- The value of the last pair of a name. -/
def lastOf? (name : String) (pairs : List (String × α)) : Option α :=
  (pairs.filter (·.1 = name)).getLast?.map Prod.snd

theorem lastOf?_concat (name : String) (pairs : List (String × α)) (pair : String × α) :
    lastOf? name (pairs ++ [pair]) = if pair.1 = name then some pair.2 else lastOf? name pairs := by
  rw [lastOf?, List.filter_append]
  split
  · next h => simp [h]
  · next h => simp [h, lastOf?]

theorem find?_foldl_put (members : Members α) (pairs : List (String × α)) (name : String) :
    (pairs.foldl (fun members pair => members.put pair.1 pair.2) members).find? name =
      (lastOf? name pairs).or (members.find? name) := by
  induction pairs using List.reverseRecOn with
  | nil => rfl
  | append_singleton pairs pair ih =>
      rw [List.foldl_append, List.foldl_cons, List.foldl_nil, find?_put, ih, lastOf?_concat]
      by_cases h : pair.1 = name
      · rw [if_pos h, if_pos h.symm, Option.some_or]
      · rw [if_neg h, if_neg (Ne.symm h)]

theorem eraseDups_concat (names : List String) (name : String) :
    (names ++ [name]).eraseDups =
      if name ∈ names then names.eraseDups else names.eraseDups ++ [name] := by
  rw [List.eraseDups_append]
  split
  · next h => simp [List.removeAll, h]
  · next h => simp [List.removeAll, h, List.eraseDups_cons]

theorem eraseDups_of_nodup {names : List String} (h : names.Nodup) : names.eraseDups = names := by
  induction names using List.reverseRecOn with
  | nil => rfl
  | append_singleton names name ih =>
      obtain ⟨hnames, -, hname⟩ := List.nodup_append.mp h
      have hfresh : name ∉ names := fun hmem => hname name hmem name List.mem_cons_self rfl
      rw [eraseDups_concat, if_neg hfresh, ih hnames]

theorem names_foldl_put_eq (h : members.Distinct) (pairs : List (String × α)) :
    (pairs.foldl (fun members pair => members.put pair.1 pair.2) members).names =
      (members.names ++ names pairs).eraseDups := by
  induction pairs using List.reverseRecOn with
  | nil =>
      have hsame : members.names ++ names ([] : List (String × α)) = members.names :=
        List.append_nil _
      rw [hsame, eraseDups_of_nodup h]
      rfl
  | append_singleton pairs pair ih =>
      have hlast : members.names ++ names (pairs ++ [pair]) =
          members.names ++ names pairs ++ [pair.1] := by
        rw [names_append, List.append_assoc]
        rfl
      have hthere : pair.1 ∈ members.names ++ names pairs ↔
          pair.1 ∈ names (pairs.foldl (fun members pair => members.put pair.1 pair.2) members) := by
        rw [ih, List.mem_eraseDups]
      rw [List.foldl_append, List.foldl_cons, List.foldl_nil, hlast, eraseDups_concat, ← ih]
      split
      · next hmem => exact names_put_of_mem (hthere.mp hmem) pair.2
      · next hmem =>
          rw [put_of_not_mem (mt hthere.mpr hmem), names_append]
          rfl

theorem distinct_nil : Distinct ([] : Members α) := List.nodup_nil

theorem ofPairs_distinct (pairs : Members α) : (ofPairs pairs).Distinct :=
  foldl_put_distinct distinct_nil pairs

theorem forall_foldl_put {motive : α → Prop} {first pairs : Members α}
    (hfirst : ∀ member ∈ first, motive member.2) (hpairs : ∀ pair ∈ pairs, motive pair.2) :
    ∀ member ∈ pairs.foldl (fun members pair => members.put pair.1 pair.2) first,
      motive member.2 := by
  induction pairs generalizing first with
  | nil => exact hfirst
  | cons pair rest ih =>
      apply ih
      · exact forall_put hfirst (hpairs pair List.mem_cons_self)
      · intro other hother
        exact hpairs other (List.mem_cons_of_mem _ hother)

theorem forall_ofPairs {motive : α → Prop} {pairs : Members α}
    (hpairs : ∀ pair ∈ pairs, motive pair.2) : ∀ member ∈ ofPairs pairs, motive member.2 :=
  forall_foldl_put (fun _ hmember => nomatch hmember) hpairs

end HttpScenario.Members
