import HttpScenario.Proofs.Json.Reading
import HttpScenario.Proofs.Json.Removal
import HttpScenario.Proofs.Json.Sameness
import HttpScenario.Verify.Redaction

namespace HttpScenario

def ReadAsPaths (texts : List String) (paths : List Path) : Prop :=
  List.Forall₂ (fun text path => Path.parse text = .ok path) texts paths

namespace Redaction

theorem removeAll_eq {texts : List String} {paths : List Path} (h : ReadAsPaths texts paths)
    (v : Json) : removeAll v texts = .ok (v.withoutAll paths) := by
  induction h generalizing v with
  | nil => rfl
  | @cons text path texts paths hpath _ ih =>
      have hremove : v.removeAt text .skip = .ok (v.without path) := by
        rw [Json.removeAt, hpath]
        exact Json.remove_skip v path
      rw [removeAll, hremove]
      exact ih (v.without path)

def textWithout (paths : List Path) (text : String) : String :=
  match Json.parse text with
  | .error _ => text
  | .ok v => if (v.withoutAll paths).same v then text else (v.withoutAll paths).compact

theorem redactText_eq {texts : List String} {paths : List Path} (h : ReadAsPaths texts paths)
    (text : String) : redactText texts text = .ok (textWithout paths text) := by
  rw [redactText, textWithout]
  cases Json.parse text with
  | error e => rfl
  | ok v =>
      simp only [removeAll_eq h]
      rfl

theorem textWithout_nil (text : String) : textWithout [] text = text := by
  rw [textWithout]
  cases hparse : Json.parse text with
  | error e => rfl
  | ok v => exact if_pos (Json.same_refl (Json.wellFormed_of_parse hparse))

theorem textWithout_of_error {text : String} {e : Json.ParseError}
    (hparse : Json.parse text = .error e) (paths : List Path) :
    textWithout paths text = text := by
  rw [textWithout, hparse]

section Document

variable {paths : List Path} {text : String} {v : Json}

theorem textWithout_of_same (hparse : Json.parse text = .ok v)
    (hsame : (v.withoutAll paths).same v = true) : textWithout paths text = text := by
  rw [textWithout, hparse]
  exact if_pos hsame

theorem textWithout_of_not_same (hparse : Json.parse text = .ok v)
    (hsame : ¬ (v.withoutAll paths).same v = true) :
    textWithout paths text = (v.withoutAll paths).compact := by
  rw [textWithout, hparse]
  exact if_neg hsame

theorem withoutAll_wellFormed (hparse : Json.parse text = .ok v) :
    (v.withoutAll paths).WellFormed :=
  (Json.withoutAll_sheds v paths).wellFormed (Json.wellFormed_of_parse hparse)

theorem parse_textWithout (hparse : Json.parse text = .ok v)
    (hback : v.ReadsBack) (paths : List Path) :
    ∃ w, Json.parse (textWithout paths text) = .ok w ∧ w.WellFormed ∧
      w.same (v.withoutAll paths) = true := by
  have hv := Json.wellFormed_of_parse hparse
  have hsheds := Json.withoutAll_sheds v paths
  have hleft : (v.withoutAll paths).WellFormed := withoutAll_wellFormed hparse
  by_cases hsame : (v.withoutAll paths).same v = true
  · rw [textWithout_of_same hparse hsame]
    exact ⟨v, hparse, hv, Json.same_symm hleft hv hsame⟩
  · rw [textWithout_of_not_same hparse hsame]
    refine ⟨v.withoutAll paths, ?_, hleft, Json.same_refl hleft⟩
    exact Json.parse_compact_eq hleft
      (Nat.le_trans hsheds.depth_le (Json.depth_le_of_parse hparse)) (hsheds.readsBack hback)

end Document

theorem same_of_parse_textWithout {paths : List Path} {text text' : String} {v v' w w' : Json}
    (hv : Json.parse text = .ok v) (hvback : v.ReadsBack)
    (hv' : Json.parse (textWithout paths text) = .ok v')
    (hw : Json.parse text' = .ok w) (hwback : w.ReadsBack)
    (hw' : Json.parse (textWithout paths text') = .ok w') :
    v'.same w' = (v.withoutAll paths).same (w.withoutAll paths) := by
  obtain ⟨x, hx, hxform, hxsame⟩ := parse_textWithout hv hvback paths
  obtain ⟨y, hy, hyform, hysame⟩ := parse_textWithout hw hwback paths
  cases hx.symm.trans hv'
  cases hy.symm.trans hw'
  exact Json.same_congr hxform (withoutAll_wellFormed hv) hyform (withoutAll_wellFormed hw)
    hxsame hysame

theorem textWithout_eq_empty {paths : List Path} {text : String} :
    textWithout paths text = "" ↔ text = "" := by
  rw [textWithout]
  cases hparse : Json.parse text with
  | error e => rfl
  | ok v =>
      have hne : text ≠ "" := by
        rintro rfl
        cases hparse
      simp only
      split
      · rfl
      · refine iff_of_false ?_ hne
        obtain ⟨c, rest, hwrite, -⟩ := Json.writeIn_head (v.withoutAll paths) .compact 0
        rw [← Json.write_eq_writeIn] at hwrite
        rw [Json.compact, hwrite]
        intro hempty
        have htext := congrArg String.toList hempty
        simp at htext

end Redaction

def Outcome.without (outcome : Outcome) (paths : List Path) : Outcome where
  reply := { outcome.reply with text := Redaction.textWithout paths outcome.reply.text }
  testCase := { outcome.testCase with
    expectedBody := outcome.testCase.expectedBody.map (Redaction.textWithout paths) }

theorem Outcome.redact_eq {texts : List String} {paths : List Path}
    (h : ReadAsPaths texts paths) (outcome : Outcome) :
    outcome.redact texts = .ok (outcome.without paths) := by
  rw [Outcome.redact]
  cases h with
  | nil =>
      have hbody : outcome.testCase.expectedBody.map (Redaction.textWithout []) =
          outcome.testCase.expectedBody := by
        rw [funext Redaction.textWithout_nil]
        exact Option.map_id'
      rw [Outcome.without, hbody, Redaction.textWithout_nil]
      rfl
  | cons hpath hpaths =>
      have hall : ReadAsPaths (_ :: _) (_ :: _) := .cons hpath hpaths
      rw [Redaction.redactText_eq hall, Outcome.without]
      cases hbody : outcome.testCase.expectedBody with
      | none => rfl
      | some body =>
          simp only [Redaction.redactText_eq hall]
          rfl

end HttpScenario
