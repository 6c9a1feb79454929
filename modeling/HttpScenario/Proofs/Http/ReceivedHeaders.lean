import HttpScenario.Http.Header
import HttpScenario.Proofs.Table
import HttpScenario.Proofs.Text.Utf8
import Mathlib.Data.List.Forall2

namespace HttpScenario

/-! The headers of a reply hold every line that came in: a name has the values of its lines in
their order, and it does not matter how the lines of different names are mixed. -/

namespace Header

open Text

variable {name text : String} {value : List UInt8} {lines other : List (String × List UInt8)}

def ShownByte (b : UInt8) : Prop := b = 9 ∨ 32 ≤ b ∧ b < 127

/-- A value is shown as the text with its bytes, unless it has bytes that are not shown. -/
inductive Shows : List UInt8 → String → Prop where
  | readable {text : String} (h : ∀ b ∈ bytes text, ShownByte b) : Shows (bytes text) text
  | binary {value : List UInt8} {b : UInt8} (hb : b ∈ value) (h : ¬ ShownByte b) :
      Shows value "<binary>"

theorem isShowable_iff {b : UInt8} : isShowable b = true ↔ ShownByte b := by
  simp [isShowable, ShownByte]

theorem toNat_lt_of_shownByte {b : UInt8} (h : ShownByte b) : b.toNat < 0x80 := by
  rcases h with rfl | ⟨-, h⟩
  · decide
  · exact Nat.lt_trans (UInt8.lt_iff_toNat_lt.mp h) (by decide)

theorem shows_showValue (value : List UInt8) : Shows value (showValue value) := by
  rw [showValue]
  split
  · next hall =>
      have hshown : ∀ b ∈ value, ShownByte b := fun b hb =>
        isShowable_iff.mp (List.all_eq_true.mp hall b hb)
      have hbytes := bytes_ofList_ofNat fun b hb => toNat_lt_of_shownByte (hshown b hb)
      have hreadable := Shows.readable (hbytes.symm ▸ hshown)
      rwa [hbytes] at hreadable
  · next hnot =>
      obtain ⟨b, hb, hshown⟩ := List.all_eq_false.mp (Bool.eq_false_iff.mpr hnot)
      exact .binary hb (isShowable_iff.not.mp hshown)

def valuesOf (name : String) (lines : List (String × List UInt8)) : List (List UInt8) :=
  (lines.filter fun line => lower line.1 = name).map Prod.snd

theorem valuesOf_concat (name : String) (lines : List (String × List UInt8))
    (line : String × List UInt8) :
    valuesOf name (lines ++ [line]) =
      if lower line.1 = name then valuesOf name lines ++ [line.2] else valuesOf name lines := by
  rw [valuesOf, List.filter_append, List.map_append]
  split
  · next h => simp [h, valuesOf]
  · next h => simp [h, valuesOf]

theorem valuesOf_swap {first second : String × List UInt8} (h : lower first.1 ≠ lower second.1)
    (name : String) (lines : List (String × List UInt8)) :
    valuesOf name (first :: second :: lines) = valuesOf name (second :: first :: lines) := by
  rw [valuesOf, valuesOf]
  by_cases hfirst : lower first.1 = name
  · have hsecond : lower second.1 ≠ name := fun heq => h (hfirst.trans heq.symm)
    simp [hfirst, hsecond]
  · simp [List.filter_cons, hfirst]

theorem valuesOf_ne_nil_iff :
    valuesOf name lines ≠ [] ↔ ∃ line ∈ lines, lower line.1 = name := by
  rw [valuesOf, Ne, List.map_eq_nil_iff, List.filter_eq_nil_iff]
  simp

def joined? : List String → Option String
  | [] => none
  | texts => some (", ".intercalate texts)

theorem joined?_of_ne_nil {texts : List String} (h : texts ≠ []) :
    joined? texts = some (", ".intercalate texts) := by
  cases texts with
  | nil => exact absurd rfl h
  | cons text texts => rfl

theorem joined?_concat (texts : List String) (text : String) :
    joined? (texts ++ [text]) =
      match joined? texts with
      | some before => some (before ++ ", " ++ text)
      | none => some text := by
  rw [joined?_of_ne_nil (by simp)]
  by_cases hne : texts = []
  · rw [hne]
    simp [joined?]
  · rw [joined?_of_ne_nil hne,
      String.intercalate_append_of_ne_nil hne (List.cons_ne_nil _ _),
      String.intercalate_singleton]

theorem find?_collectLine (collected : Table String) (line : String × List UInt8)
    (name : String) :
    (collectLine collected line).find? name =
      if lower line.1 = name then
        match collected.find? name with
        | some before => some (before ++ ", " ++ showValue line.2)
        | none => some (showValue line.2)
      else collected.find? name := by
  rw [collectLine]
  by_cases h : lower line.1 = name
  · rw [if_pos h, h]
    cases hfound : collected.find? name with
    | none => simp [Table.find?_insert]
    | some before => simp [Table.find?_insert]
  · rw [if_neg h]
    split
    · rw [Table.find?_insert, if_neg (Ne.symm h)]
    · rw [Table.find?_insert, if_neg (Ne.symm h)]

theorem find?_collect (lines : List (String × List UInt8)) (name : String) :
    (collect lines).find? name = joined? ((valuesOf name lines).map showValue) := by
  induction lines using List.reverseRecOn with
  | nil => rfl
  | append_singleton lines line ih =>
      rw [collect, List.foldl_append, List.foldl_cons, List.foldl_nil, ← collect,
        find?_collectLine, valuesOf_concat, ih]
      split
      · rw [List.map_append, List.map_singleton, joined?_concat]
      · rfl

/-- What is collected has the names of the lines, each with what its lines show. -/
structure Gathers (lines : List (String × List UInt8)) (collected : Table String) : Prop where
  names : ∀ name, collected.contains name = true ↔ ∃ line ∈ lines, lower line.1 = name
  values : ∀ name, valuesOf name lines ≠ [] → ∃ shown,
    List.Forall₂ Shows (valuesOf name lines) shown ∧
      collected.find? name = some (", ".intercalate shown)

theorem collect_gathers (lines : List (String × List UInt8)) : Gathers lines (collect lines) where
  names name := by
    rw [← valuesOf_ne_nil_iff, Table.contains, find?_collect]
    cases valuesOf name lines with
    | nil => simp [joined?]
    | cons value values => simp [joined?]
  values name hne := by
    refine ⟨(valuesOf name lines).map showValue, ?_, ?_⟩
    · rw [List.forall₂_map_right_iff, List.forall₂_same]
      exact fun value _ => shows_showValue value
    · rw [find?_collect, joined?_of_ne_nil (by simpa using hne)]

theorem collect_congr (h : ∀ name, valuesOf name lines = valuesOf name other) :
    collect lines = collect other := by
  apply Table.ext_find?
  intro name
  rw [find?_collect, find?_collect, h]

/-- Every line that came in is held under its name, and lines that give each name the same values
in the same order come to the same headers. -/
theorem collect_keeps_lines (lines : List (String × List UInt8)) :
    Gathers lines (collect lines) ∧
      ∀ other, (∀ name, valuesOf name other = valuesOf name lines) →
        collect other = collect lines :=
  ⟨collect_gathers lines, fun _ h => collect_congr h⟩

theorem collect_mixed_lines :
    Gathers [("Via", [97]), ("X-Tag", [255]), ("via", [98])]
        (Table.ofList [("via", "a, b"), ("x-tag", "<binary>")]) ∧
      collect [("X-Tag", [255]), ("Via", [97]), ("via", [98])] =
        Table.ofList [("via", "a, b"), ("x-tag", "<binary>")] := by
  have hcollected : collect [("Via", [97]), ("X-Tag", [255]), ("via", [98])] =
      Table.ofList [("via", "a, b"), ("x-tag", "<binary>")] := by decide +kernel
  rw [← hcollected]
  obtain ⟨hgathers, hmixed⟩ :=
    collect_keeps_lines [("Via", [97]), ("X-Tag", [255]), ("via", [98])]
  refine ⟨hgathers, hmixed _ fun name => ?_⟩
  apply valuesOf_swap
  decide

end Header

end HttpScenario
