import HttpScenario.Proofs.Json.Elements
import HttpScenario.Proofs.Verify.Redaction

namespace HttpScenario

/-! Excluding several elements of one array. Each path is followed in what the ones before it
have left, so which elements are lost depends on the order of the paths. -/

/-- Texts of paths, and the places that they address in the array at the end of some steps. -/
def ReadAsElements (steps : List Step) (texts : List String) (places : List Nat) : Prop :=
  List.Forall₂ (fun text i => Path.parse text = .ok ⟨text, steps, .index i⟩) texts places

namespace Redaction

variable {steps : List Step} {texts : List String} {places : List Nat}

theorem removeAll_elements (h : ReadAsElements steps texts places) (v : Json) :
    removeAll v texts = .ok (v.lacking steps (Elements.lost places)) := by
  induction h generalizing v with
  | nil => exact congrArg Except.ok (Json.lacking_false v steps).symm
  | @cons text i texts places hpath _ ih =>
      have hremove : v.removeAt text .skip = .ok (v.without ⟨text, steps, .index i⟩) := by
        rw [Json.removeAt, hpath]
        exact Json.remove_skip v _
      rw [removeAll, hremove]
      have hlost : (v.without ⟨text, steps, .index i⟩).lacking steps (Elements.lost places) =
          v.lacking steps (Elements.lost (i :: places)) :=
        Json.without_lacking rfl places v
      exact (ih _).trans (congrArg Except.ok hlost)

/-- A body is left without the elements that are lost when those at the places are erased one
after the other. These are the elements that stood at the places in the body as it was if the
places come in descending order, as far as they are in the array; and if the elements are all
different, then only if they do. -/
theorem redactText_elements {text : String} {v : Json} {items : List Json}
    (htexts : ReadAsElements steps texts places) (hparse : Json.parse text = .ok v)
    (hitems : v.descend? steps = some (.arr items)) (hdistinct : places.Nodup) :
    (redactText texts text = .ok
        (if (v.lacking steps (Elements.lost places)).same v then text
          else (v.lacking steps (Elements.lost places)).compact)) ∧
      ((places.filter (· < items.length)).Pairwise (· > ·) →
        v.lacking steps (Elements.lost places) =
          v.lacking steps (fun j => decide (j ∈ places))) ∧
      (items.Nodup →
        v.lacking steps (Elements.lost places) =
          v.lacking steps (fun j => decide (j ∈ places)) →
        (places.filter (· < items.length)).Pairwise (· > ·)) := by
  refine ⟨?_, fun hdescending => ?_, fun hdifferent hsame => ?_⟩
  · rw [redactText, hparse]
    simp only [removeAll_elements htexts]
    rfl
  · rw [Json.lacking_eq_iff hitems]
    exact Elements.leaveOut_congr (Elements.lost_of_descending hdescending)
  · rw [Json.lacking_eq_iff hitems] at hsame
    exact (Elements.lost_iff_descending hdistinct).mp
      (Elements.eq_of_leaveOut_eq hdifferent hsame)

def threeNumbers : Json := .obj [("items", .arr [.ofNat 1, .ofNat 2, .ofNat 3])]

theorem redactText_threeNumbers :
    redactText ["items.[0]", "items.[7]", "items.[1]"] threeNumbers.compact =
        .ok (Json.obj [("items", .arr [.ofNat 2])]).compact ∧
      threeNumbers.lacking [.key "items"] (Elements.lost [0, 7, 1]) ≠
        threeNumbers.lacking [.key "items"] (fun j => decide (j ∈ [0, 7, 1])) ∧
      threeNumbers.lacking [.key "items"] (Elements.lost [7, 1, 0]) =
        threeNumbers.lacking [.key "items"] (fun j => decide (j ∈ [7, 1, 0])) := by
  have hparse : Json.parse threeNumbers.compact = .ok threeNumbers := rfl
  have hitems : threeNumbers.descend? [.key "items"] =
      some (.arr [.ofNat 1, .ofNat 2, .ofNat 3]) := rfl
  have hascending : ReadAsElements [.key "items"] ["items.[0]", "items.[7]", "items.[1]"]
      [0, 7, 1] := .cons rfl (.cons rfl (.cons rfl .nil))
  have hdescending : ReadAsElements [.key "items"] ["items.[7]", "items.[1]", "items.[0]"]
      [7, 1, 0] := .cons rfl (.cons rfl (.cons rfl .nil))
  obtain ⟨hleft, -, honly⟩ := redactText_elements hascending hparse hitems (by decide)
  obtain ⟨-, hexact, -⟩ := redactText_elements hdescending hparse hitems (by decide)
  refine ⟨hleft.trans rfl, fun hsame => ?_, hexact (by decide)⟩
  have hdifferent : [Json.ofNat 1, .ofNat 2, .ofNat 3].Nodup := by
    simp [Json.ofNat]
  have hwrong := honly hdifferent hsame
  exact absurd hwrong (by decide)

end Redaction

end HttpScenario
