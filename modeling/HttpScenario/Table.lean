namespace HttpScenario

/-! Finite maps with text keys, in increasing order of the keys. Strings are
ordered by code points, which is also the order of their UTF-8 bytes. -/

structure Table (α : Type) where
  entries : List (String × α)
  sorted : entries.Pairwise fun a b => a.1 < b.1
deriving DecidableEq

namespace Table

variable {α : Type}

def empty : Table α := ⟨[], List.Pairwise.nil⟩

instance : EmptyCollection (Table α) := ⟨empty⟩

instance : Inhabited (Table α) := ⟨empty⟩

/-- Adds an entry to ordered ones, in the place of an entry with its key. -/
def insertEntry (key : String) (value : α) : List (String × α) → List (String × α)
  | [] => [(key, value)]
  | entry :: rest =>
      if key < entry.1 then (key, value) :: entry :: rest
      else if key = entry.1 then (key, value) :: rest
      else entry :: insertEntry key value rest

theorem mem_insertEntry {key : String} {value : α} {entry : String × α}
    {entries : List (String × α)} (h : entry ∈ insertEntry key value entries) :
    entry = (key, value) ∨ entry ∈ entries := by
  induction entries with
  | nil => simpa [insertEntry] using h
  | cons first rest ih =>
      rw [insertEntry] at h
      split at h
      · simpa using h
      · split at h
        · rcases List.mem_cons.mp h with h | h
          · exact .inl h
          · exact .inr (List.mem_cons_of_mem _ h)
        · rcases List.mem_cons.mp h with h | h
          · exact .inr (h ▸ List.mem_cons_self)
          · rcases ih h with h | h
            · exact .inl h
            · exact .inr (List.mem_cons_of_mem _ h)

theorem insertEntry_sorted (key : String) (value : α) {entries : List (String × α)}
    (h : entries.Pairwise fun a b => a.1 < b.1) :
    (insertEntry key value entries).Pairwise fun a b => a.1 < b.1 := by
  induction entries with
  | nil => simp [insertEntry]
  | cons first rest ih =>
      obtain ⟨hfirst, hrest⟩ := List.pairwise_cons.mp h
      rw [insertEntry]
      split
      · next hlt =>
          refine List.pairwise_cons.mpr ⟨?_, h⟩
          intro entry hentry
          rcases List.mem_cons.mp hentry with rfl | hentry
          · exact hlt
          · exact String.lt_trans hlt (hfirst entry hentry)
      · next hlt =>
          split
          · next heq =>
              refine List.pairwise_cons.mpr ⟨?_, hrest⟩
              intro entry hentry
              exact heq ▸ hfirst entry hentry
          · next hne =>
              refine List.pairwise_cons.mpr ⟨?_, ih hrest⟩
              intro entry hentry
              rcases mem_insertEntry hentry with rfl | hentry
              · rcases Std.lt_trichotomy key first.1 with h | h | h
                · exact absurd h hlt
                · exact absurd h hne
                · exact h
              · exact hfirst entry hentry

def insert (table : Table α) (key : String) (value : α) : Table α :=
  ⟨insertEntry key value table.entries, insertEntry_sorted key value table.sorted⟩

def find? (table : Table α) (key : String) : Option α :=
  (table.entries.find? fun entry => entry.1 == key).map Prod.snd

def contains (table : Table α) (key : String) : Bool := (table.find? key).isSome

def insertNew (table : Table α) (key : String) (value : α) : Table α :=
  if table.contains key then table else table.insert key value

def ofList (pairs : List (String × α)) : Table α :=
  pairs.foldl (fun table pair => table.insert pair.1 pair.2) ∅

def isEmpty (table : Table α) : Bool := table.entries.isEmpty

end Table

end HttpScenario
