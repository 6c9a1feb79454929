import HttpScenario.Proofs.Json.Divergence
import HttpScenario.Proofs.Json.Rereading
import HttpScenario.Scenario.Edits

namespace HttpScenario

/-! Edits in another order. Two that stand beside one another and whose paths part can be
swapped: the body that is edited stays the same document. -/

inductive SameOutcome {ε α : Type} (related : α → α → Prop) : Except ε α → Except ε α → Prop where
  | failure (e : ε) : SameOutcome related (.error e) (.error e)
  | result {a b : α} (h : related a b) : SameOutcome related (.ok a) (.ok b)

theorem sameOutcome_cases {ε α : Type} {related : α → α → Prop} {first second : Except ε α}
    (h : SameOutcome related first second) :
    (∃ e, first = .error e ∧ second = .error e) ∨
      ∃ a b, first = .ok a ∧ second = .ok b ∧ related a b := by
  cases h with
  | failure e => exact .inl ⟨e, rfl, rfl⟩
  | result h => exact .inr ⟨_, _, rfl, rfl, h⟩

namespace Edits

variable {v w : Json} {edits : List (String × Json)}

theorem applyAll_append (v : Json) (edits others : List (String × Json)) :
    applyAll v (edits ++ others) = applyAll v edits >>= (applyAll · others) := by
  induction edits generalizing v with
  | nil => rfl
  | cons edit edits ih =>
      obtain ⟨text, x⟩ := edit
      rw [List.cons_append, applyAll, applyAll, bind_assoc]
      simp only [ih]

theorem applyAll_cons_of_parse {text : String} {path : Path} (hpath : Path.parse text = .ok path)
    (v x : Json) (edits : List (String × Json)) :
    applyAll v ((text, x) :: edits) = applyAll (v.assigned path x) edits := by
  have hupdate : v.updateAt text x .skip = .ok (v.assigned path x) := by
    rw [Json.updateAt, hpath]
    exact Json.update_skip v path x
  rw [applyAll, hupdate]
  rfl

theorem applyAll_cons_of_error {text : String} {e : PathError}
    (hpath : Path.parse text = .error e) (v x : Json) (edits : List (String × Json)) :
    applyAll v ((text, x) :: edits) = .error e := by
  have hupdate : v.updateAt text x .skip = .error e := by
    rw [Json.updateAt, hpath]
    rfl
  rw [applyAll, hupdate]
  rfl

theorem applyAll_alike (h : v.Alike w) (hedits : ∀ edit ∈ edits, edit.2.WellFormed) :
    SameOutcome Json.Alike (applyAll v edits) (applyAll w edits) := by
  induction edits generalizing v w with
  | nil => exact .result h
  | cons edit edits ih =>
      obtain ⟨text, x⟩ := edit
      obtain ⟨hx, hrest⟩ := List.forall_mem_cons.mp hedits
      cases hpath : Path.parse text with
      | error e =>
          rw [applyAll_cons_of_error hpath, applyAll_cons_of_error hpath]
          exact .failure e
      | ok path =>
          rw [applyAll_cons_of_parse hpath, applyAll_cons_of_parse hpath]
          exact ih (h.assigned path (.refl hx)) hrest

theorem applyAll_wellFormed (hv : v.WellFormed) (hedits : ∀ edit ∈ edits, edit.2.WellFormed)
    (h : applyAll v edits = .ok w) : w.WellFormed := by
  have hsame := applyAll_alike (.refl hv) hedits
  rw [h] at hsame
  cases hsame with
  | result halike => exact halike.left

/-- Texts of equal documents, which are read as equal documents or not at all. -/
inductive SameBody : Option String → Option String → Prop where
  | document {v w : Json} (h : v.Alike w)
      (hread : Option.Rel Json.Alike (Json.parse v.compact).toOption
        (Json.parse w.compact).toOption) :
      SameBody (some v.compact) (some w.compact)

section Swap

variable {x y : Json} {path other : Path} {text text' : String}
  {before after : List (String × Json)}
  (hdiverges : path.Diverges other) (hpath : path.target.isWildcard = false)
  (hother : other.target.isWildcard = false) (hx : x.WellFormed) (hy : y.WellFormed)

include hdiverges hpath hother hx hy

theorem update_swap (hv : v.WellFormed) :
    ∃ first second, v.update path x .skip >>= (·.update other y .skip) = .ok first ∧
      v.update other y .skip >>= (·.update path x .skip) = .ok second ∧
      first.Alike second := by
  refine ⟨_, _, ?_, ?_, Json.assigned_comm hdiverges hpath hother hv hx hy⟩
  · rw [Json.update_skip]
    exact Json.update_skip _ other y
  · rw [Json.update_skip]
    exact Json.update_skip _ path x

variable (htext : Path.parse text = .ok path) (htext' : Path.parse text' = .ok other)
  (hbefore : ∀ edit ∈ before, edit.2.WellFormed) (hafter : ∀ edit ∈ after, edit.2.WellFormed)

include htext htext' hbefore hafter

theorem applyAll_swap (hv : v.WellFormed) :
    SameOutcome Json.Alike (applyAll v (before ++ (text, x) :: (text', y) :: after))
      (applyAll v (before ++ (text', y) :: (text, x) :: after)) := by
  rw [applyAll_append, applyAll_append]
  cases hfirst : applyAll v before with
  | error e => exact .failure e
  | ok w =>
      have hw : w.WellFormed := applyAll_wellFormed hv hbefore hfirst
      have hswap := Json.assigned_comm hdiverges hpath hother hw hx hy
      have hrest := applyAll_alike hswap hafter
      rw [← applyAll_cons_of_parse htext', ← applyAll_cons_of_parse htext,
        ← applyAll_cons_of_parse htext, ← applyAll_cons_of_parse htext'] at hrest
      exact hrest

theorem editBody_swap (name : String) (field : BodyField) (body : Option String) :
    SameOutcome SameBody
      (editBody name field (before ++ (text, x) :: (text', y) :: after) body)
      (editBody name field (before ++ (text', y) :: (text, x) :: after) body) := by
  have hsome : ∀ edit : String × Json, ∀ edits : List (String × Json),
      (before ++ edit :: edits).isEmpty = false := by
    intro edit edits
    cases before <;> rfl
  rw [editBody, editBody, hsome, hsome]
  cases hparse : Json.parse (body.getD "\x7b\x7d") with
  | error e => exact .failure _
  | ok document =>
      have hswap := applyAll_swap hdiverges hpath hother hx hy htext htext' hbefore hafter
        (Json.wellFormed_of_parse hparse)
      simp only [Bool.false_eq_true, if_false]
      rcases sameOutcome_cases hswap with ⟨e, hfirst, hsecond⟩ | ⟨first, second, hfirst, hsecond, h⟩
      · rw [hfirst, hsecond]
        exact .failure _
      · rw [hfirst, hsecond]
        exact .result (.document h h.parse_compact)

end Swap

/-- Values set at paths that part are set in either order, in a document and in a body that is
edited. -/
theorem swap_diverging {path other : Path} {x y : Json} (hdiverges : path.Diverges other)
    (hpath : path.target.isWildcard = false) (hother : other.target.isWildcard = false)
    (hx : x.WellFormed) (hy : y.WellFormed) :
    (∀ v : Json, v.WellFormed →
      ∃ first second, v.update path x .skip >>= (·.update other y .skip) = .ok first ∧
        v.update other y .skip >>= (·.update path x .skip) = .ok second ∧
        first.same second = true) ∧
      ∀ {text text' : String}, Path.parse text = .ok path → Path.parse text' = .ok other →
        ∀ (name : String) (field : BodyField) (before after : List (String × Json))
          (body : Option String), (∀ edit ∈ before ++ after, edit.2.WellFormed) →
          SameOutcome SameBody
            (editBody name field (before ++ (text, x) :: (text', y) :: after) body)
            (editBody name field (before ++ (text', y) :: (text, x) :: after) body) := by
  refine ⟨fun v hv => ?_, fun htext htext' name field before after body hedits => ?_⟩
  · obtain ⟨first, second, hfirst, hsecond, halike⟩ :=
      update_swap hdiverges hpath hother hx hy hv
    exact ⟨first, second, hfirst, hsecond, halike.same⟩
  · obtain ⟨hbefore, hafter⟩ := List.forall_mem_append.mp hedits
    exact editBody_swap hdiverges hpath hother hx hy htext htext' hbefore hafter name field body

def itemColour : Path := ⟨"items.[0].colour", [.key "items", .index 0], .key "colour"⟩

def itemSize : Path := ⟨"items.[0].size", [.key "items", .index 0], .key "size"⟩

def oneItem (members : Members Json) : Json := .obj [("items", .arr [.obj members])]

theorem itemColour_diverges : itemColour.Diverges itemSize :=
  ⟨[.key "items", .index 0], .key "colour", .key "size", [], [], rfl, rfl, by decide⟩

theorem swap_diverging_item :
    itemColour.Diverges itemSize ∧ itemColour.target.isWildcard = false ∧
      itemSize.target.isWildcard = false ∧
      SameOutcome SameBody
        (editBody "order" .request
          [("items.[0].colour", .str "red"), ("items.[0].size", .ofNat 7)]
          (some (oneItem []).compact))
        (editBody "order" .request
          [("items.[0].size", .ofNat 7), ("items.[0].colour", .str "red")]
          (some (oneItem []).compact)) ∧
      editBody "order" .request
          [("items.[0].colour", .str "red"), ("items.[0].size", .ofNat 7)]
          (some (oneItem []).compact) =
        .ok (some (oneItem [("colour", .str "red"), ("size", .ofNat 7)]).compact) ∧
      editBody "order" .request
          [("items.[0].size", .ofNat 7), ("items.[0].colour", .str "red")]
          (some (oneItem []).compact) =
        .ok (some (oneItem [("size", .ofNat 7), ("colour", .str "red")]).compact) := by
  have hsize : (Json.ofNat 7).WellFormed := .num ⟨by decide, by decide⟩
  obtain ⟨-, hbody⟩ := swap_diverging itemColour_diverges rfl rfl (.str "red") hsize
  exact ⟨itemColour_diverges, rfl, rfl,
    hbody rfl rfl "order" .request [] [] _ (List.forall_mem_nil _), rfl, rfl⟩

end Edits

end HttpScenario
