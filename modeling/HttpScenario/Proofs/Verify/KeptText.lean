import HttpScenario.Proofs.Json.Size
import HttpScenario.Proofs.Verify.Redaction

namespace HttpScenario.Redaction

variable {text : String} {v : Json} {paths : List Path}

theorem textWithout_of_kept (hparse : Json.parse text = .ok v) (h : v.withoutAll paths = v) :
    textWithout paths text = text :=
  textWithout_of_same hparse ((Json.same_withoutAll_iff (Json.wellFormed_of_parse hparse)).mpr h)

theorem textWithout_of_scalar (hparse : Json.parse text = .ok v) (h : v.isContainer = false)
    (paths : List Path) : textWithout paths text = text :=
  textWithout_of_kept hparse (Json.withoutAll_of_none fun path _ => Json.remove?_of_scalar h path)

theorem textWithout_of_lost (hparse : Json.parse text = .ok v) (h : v.withoutAll paths ≠ v) :
    textWithout paths text = (v.withoutAll paths).compact :=
  textWithout_of_not_same hparse
    (mt (Json.same_withoutAll_iff (Json.wellFormed_of_parse hparse)).mp h)

/-- The text `redacted` stands for what is left of the document `v` of a text. It is another
text only if something was removed, and then the compact one. What is left nests no deeper than
the document, so it is read back without regard to the limit on nesting. -/
structure StandsFor (text : String) (v left : Json) (redacted : String) : Prop where
  kept : left = v → redacted = text
  printed : left ≠ v → redacted = left.compact
  same_iff : left.same v = true ↔ left = v
  depth_le : left.depth ≤ v.depth
  depth_le_limit : left.depth ≤ Json.depthLimit
  parse_printed : left ≠ v → (Json.parse redacted).toOption = left.readBack?

theorem textWithout_standsFor (hparse : Json.parse text = .ok v) (paths : List Path) :
    StandsFor text v (v.withoutAll paths) (textWithout paths text) := by
  have hform := Json.wellFormed_of_parse hparse
  have hsheds := Json.withoutAll_sheds v paths
  have hdepth : (v.withoutAll paths).depth ≤ Json.depthLimit :=
    Nat.le_trans hsheds.depth_le (Json.depth_le_of_parse hparse)
  refine ⟨textWithout_of_kept hparse, textWithout_of_lost hparse, Json.same_withoutAll_iff hform,
    hsheds.depth_le, hdepth, fun hlost => ?_⟩
  rw [textWithout_of_lost hparse hlost, Json.parse_compact (withoutAll_wellFormed hparse),
    Json.readWithin?, if_pos hdepth]

/-- A text that is no document stays. Of a document the paths leave something, one after the
other; that is the document itself exactly if none of them addresses anything, and the redacted
text stands for it. -/
theorem redactText_standsFor {texts : List String} {paths : List Path}
    (hpaths : ReadAsPaths texts paths) (text : String) :
    (∀ e, Json.parse text = .error e → redactText texts text = .ok text) ∧
      ∀ v, Json.parse text = .ok v → ∃ left redacted, removeAll v texts = .ok left ∧
        redactText texts text = .ok redacted ∧
        (left = v ↔ ∀ path ∈ paths, v.remove? path = none) ∧
        StandsFor text v left redacted := by
  constructor
  · intro e hparse
    rw [redactText_eq hpaths, textWithout_of_error hparse]
  · intro v hparse
    exact ⟨v.withoutAll paths, textWithout paths text, removeAll_eq hpaths v,
      redactText_eq hpaths text, Json.withoutAll_eq_self_iff, textWithout_standsFor hparse paths⟩

def spacedText : String := "\x7b \"id\": 1, \"id\": 2, \"items\": [3, 3] \x7d"

def spacedDocument : Json :=
  .obj [("id", .ofNat 2), ("items", .arr [.ofNat 3, .ofNat 3])]

theorem redactText_spacedText :
    Json.parse spacedText = .ok spacedDocument ∧
      redactText ["items.[2]", "*id"] spacedText = .ok spacedText ∧
      redactText ["items.[0]", "*id"] spacedText = .ok "\x7b\"id\":2,\"items\":[3]\x7d" := by
  have hparse : Json.parse spacedText = .ok spacedDocument := rfl
  have hidle : ReadAsPaths ["items.[2]", "*id"]
      [⟨"items.[2]", [.key "items"], .index 2⟩, ⟨"*id", [], .eachKey "id"⟩] :=
    .cons rfl (.cons rfl .nil)
  have hfirst : ReadAsPaths ["items.[0]", "*id"]
      [⟨"items.[0]", [.key "items"], .index 0⟩, ⟨"*id", [], .eachKey "id"⟩] :=
    .cons rfl (.cons rfl .nil)
  have hnothing : ∀ path ∈ [⟨"items.[2]", [.key "items"], .index 2⟩, ⟨"*id", [], .eachKey "id"⟩],
      spacedDocument.remove? path = none := by
    simp only [List.forall_mem_cons]
    exact ⟨rfl, rfl, List.forall_mem_nil _⟩
  refine ⟨hparse, ?_, ?_⟩
  · obtain ⟨left, redacted, -, hredacted, hkept, hstands⟩ :=
      (redactText_standsFor hidle spacedText).2 _ hparse
    rw [hredacted, hstands.kept (hkept.mpr hnothing)]
  · obtain ⟨left, redacted, hleft, hredacted, -, hstands⟩ :=
      (redactText_standsFor hfirst spacedText).2 _ hparse
    have hshorter : left = .obj [("id", .ofNat 2), ("items", .arr [.ofNat 3])] :=
      Except.ok.inj (hleft.symm.trans rfl)
    have hlost : left ≠ spacedDocument := by
      rw [hshorter]
      simp [spacedDocument]
    rw [hredacted, hstands.printed hlost, hshorter]
    rfl

end HttpScenario.Redaction
