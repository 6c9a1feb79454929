import HttpScenario.Json.Members

namespace HttpScenario

/-- How a table came to be: by its header, as a part of the header of another
table, by a key with points, or in braces. -/
inductive TableOrigin where
  | header
  | implied
  | dotted
  | inline
deriving DecidableEq

inductive Toml where
  | text (value : String)
  | integer (value : Int)
  | flag (value : Bool)
  | float
  | moment
  | array (items : List Toml)
  | table (origin : TableOrigin) (members : List (String × Toml))
  | tables (items : List (List (String × Toml)))

namespace Toml

abbrev Entries := Members Toml

abbrev Change := Entries → Option Entries

def changeLast (change : Change) (items : List Entries) : Option (List Entries) := do
  let last ← items.getLast?
  return items.dropLast ++ [← change last]

/-- Changes the table that the keys of a header lead to. Tables that are not
there are made. -/
def atHeader (change : Change) : List String → Change
  | [], entries => change entries
  | key :: keys, entries =>
      match Members.find? key entries with
      | none => do
          return entries.put key (.table .implied (← atHeader change keys []))
      | some (.table .inline _) => none
      | some (.table origin inner) => do
          return entries.put key (.table origin (← atHeader change keys inner))
      | some (.tables items) => do
          return entries.put key (.tables (← changeLast (atHeader change keys) items))
      | some _ => none

def addNew (key : String) (value : Toml) : Change := fun entries =>
  if (Members.find? key entries).isSome then none else some (entries.put key value)

/-- Gives a key with points a value. Its tables are its own: they were made by
such keys, the innermost one always. `inDotted` tells whether the
table was. -/
def addDotted (key : String) (value : Toml) : (inDotted : Bool) → List String → Change
  | inDotted, [], entries => if inDotted then addNew key value entries else none
  | _, first :: rest, entries =>
      match Members.find? first entries with
      | none => do
          return entries.put first (.table .dotted (← addDotted key value true rest []))
      | some (.table .dotted inner) => do
          return entries.put first (.table .dotted (← addDotted key value true rest inner))
      | some (.table .implied inner) => do
          return entries.put first (.table .implied (← addDotted key value false rest inner))
      | some (.tables items) => do
          return entries.put first
            (.tables (← changeLast (addDotted key value false rest) items))
      | some _ => none

def add (keys : List String) (key : String) (value : Toml) : Change :=
  addDotted key value keys.isEmpty keys

/-- Begins the table of a header. A table may have been implied before, not made. -/
def openTable (key : String) : Change := fun entries =>
  match Members.find? key entries with
  | none => some (entries.put key (.table .header []))
  | some (.table .implied inner) => some (entries.put key (.table .header inner))
  | some _ => none

def openItem (key : String) : Change := fun entries =>
  match Members.find? key entries with
  | none => some (entries.put key (.tables [[]]))
  | some (.tables items) => some (entries.put key (.tables (items ++ [[]])))
  | some _ => none

end Toml

end HttpScenario
