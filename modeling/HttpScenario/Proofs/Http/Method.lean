import HttpScenario.Http.Method
import HttpScenario.Proofs.Text.Blank

namespace HttpScenario.Method

/-- A text names a method in any letter case, with blanks around the name. -/
def NamedBy (method : Method) (text : String) : Prop :=
  ∃ before name after, text.toList = before ++ name ++ after ∧
    (∀ c ∈ before, Text.isBlank c = true) ∧ (∀ c ∈ after, Text.isBlank c = true) ∧
    name.map Char.toLower = method.name.toList.map Char.toLower

variable {method : Method} {text : String}

theorem name_solid (method : Method) : ∀ c ∈ method.name.toList, Text.isBlank c = false := by
  have h : method.name.toList.all (fun c => !Text.isBlank c) = true := by cases method <;> rfl
  simpa using h

theorem solid_of_lower {name : List Char}
    (h : name.map Char.toLower = method.name.toList.map Char.toLower) :
    ∀ c ∈ name, Text.isBlank c = false := by
  intro c hc
  obtain ⟨d, hd, hlower⟩ := List.mem_map.mp (h ▸ List.mem_map_of_mem hc)
  rw [← Text.isBlank_toLower, ← hlower, Text.isBlank_toLower]
  exact name_solid method d hd

theorem namedBy_iff :
    method.NamedBy text ↔ Text.lower method.name = Text.lower (Text.trim text) := by
  rw [Text.lower_eq_lower_iff, Text.trim, String.toList_ofList]
  constructor
  · intro ⟨before, name, after, htext, hbefore, hafter, hname⟩
    rw [htext, Text.trimBlanks_padded hbefore hafter,
      Text.trimBlanks_of_solid (solid_of_lower hname), hname]
  · intro h
    obtain ⟨before, after, htext, hbefore, hafter⟩ := Text.exists_padding text.toList
    exact ⟨before, _, after, htext, hbefore, hafter, h.symm⟩

theorem ofText?_eq_some_iff : ofText? text = some method ↔ method.NamedBy text := by
  rw [namedBy_iff, ofText?]
  constructor
  · intro h
    simpa using List.find?_some h
  · intro h
    rw [← h]
    cases method <;> rfl

theorem parse_of_namedBy (h : method.NamedBy text) : parse text = .ok method := by
  rw [parse, ofText?_eq_some_iff.mpr h]

theorem parse_of_unnamed (h : ∀ method : Method, ¬ method.NamedBy text) :
    parse text = .error (.unsupportedMethod text) := by
  have hnone : ofText? text = none := by
    apply Option.eq_none_iff_forall_ne_some.mpr
    intro method hmethod
    exact h method (ofText?_eq_some_iff.mp hmethod)
  rw [parse, hnone]

end HttpScenario.Method
