import HttpScenario.Proofs.Verify.Verdict

namespace HttpScenario

/-! Excluded paths of which one cannot be read. That is told whenever a body is a document;
without a document there is nothing to leave out, and no path is looked at. -/

namespace Path

inductive FirstFault : List String → String → Fault → Prop where
  | here {text : String} {fault : Fault} (hfault : read text = .error fault)
      (texts : List String) : FirstFault (text :: texts) text fault
  | behind {text bad : String} {path : Path} {fault : Fault} {texts : List String}
      (hpath : parse text = .ok path) (h : FirstFault texts bad fault) :
      FirstFault (text :: texts) bad fault

theorem parse_of_fault {text : String} {fault : Fault} (h : read text = .error fault) :
    parse text = .error (.invalid text fault) := by
  rw [parse, h]
  rfl

theorem exists_firstFault {texts : List String}
    (h : ∃ text ∈ texts, ∃ e, parse text = .error e) :
    ∃ text fault, FirstFault texts text fault := by
  induction texts with
  | nil =>
      obtain ⟨text, hmem, -⟩ := h
      cases hmem
  | cons first texts ih =>
      cases hread : read first with
      | error fault => exact ⟨first, fault, .here hread texts⟩
      | ok path =>
          have hpath : parse first = .ok path := by
            rw [parse, hread]
            rfl
          obtain ⟨text, hmem, e, hfault⟩ := h
          have hbehind : text ∈ texts := by
            rcases List.mem_cons.mp hmem with rfl | hmem
            · cases hpath.symm.trans hfault
            · exact hmem
          obtain ⟨bad, fault, hfirst⟩ := ih ⟨text, hbehind, e, hfault⟩
          exact ⟨bad, fault, .behind hpath hfirst⟩

end Path

section FirstFault

variable {texts : List String} {text : String} {fault : Path.Fault} {outcome : Outcome}

namespace Redaction

theorem removeAll_of_firstFault (h : Path.FirstFault texts text fault) (v : Json) :
    removeAll v texts = .error (.invalid text fault) := by
  induction h generalizing v with
  | @here text fault hfault texts =>
      have hremove : v.removeAt text .skip = .error (.invalid text fault) := by
        rw [Json.removeAt, Path.parse_of_fault hfault]
        rfl
      rw [removeAll, hremove]
      rfl
  | @behind text bad path fault texts hpath _ ih =>
      have hremove : v.removeAt text .skip = .ok (v.without path) := by
        rw [Json.removeAt, hpath]
        exact Json.remove_skip v path
      rw [removeAll, hremove]
      exact ih (v.without path)

theorem redactText_of_firstFault (h : Path.FirstFault texts text fault) {body : String} {v : Json}
    (hparse : Json.parse body = .ok v) :
    redactText texts body = .error (.invalid text fault) := by
  rw [redactText, hparse]
  simp only [removeAll_of_firstFault h]
  rfl

theorem redactText_of_no_document {body : String} (h : ∀ v, Json.parse body ≠ .ok v)
    (texts : List String) : redactText texts body = .ok body := by
  rw [redactText]
  cases hparse : Json.parse body with
  | error e => rfl
  | ok v => exact absurd hparse (h v)

end Redaction

namespace Outcome

def HoldsDocument (outcome : Outcome) : Prop :=
  (∃ v, Json.parse outcome.reply.text = .ok v) ∨
    ∃ body v, outcome.testCase.expectedBody = some body ∧ Json.parse body = .ok v

theorem redact_of_firstFault (h : Path.FirstFault texts text fault)
    (hdocument : outcome.HoldsDocument) :
    outcome.redact texts = .error (.invalid text fault) := by
  have hsome : texts.isEmpty = false := by cases h <;> rfl
  rw [redact, hsome]
  cases hreply : Json.parse outcome.reply.text with
  | ok v =>
      rw [Redaction.redactText_of_firstFault h hreply]
      rfl
  | error e =>
      have hnone : ∀ v, Json.parse outcome.reply.text ≠ .ok v := by
        intro v hv
        cases hreply.symm.trans hv
      have hkept := Redaction.redactText_of_no_document hnone texts
      obtain ⟨v, hv⟩ | ⟨body, v, hbody, hv⟩ := hdocument
      · cases hreply.symm.trans hv
      · rw [hkept, hbody]
        simp only [Redaction.redactText_of_firstFault h hv]
        rfl

theorem redact_of_no_document (hnone : ¬ outcome.HoldsDocument) (texts : List String) :
    outcome.redact texts = .ok outcome := by
  obtain ⟨hreply, hexpected⟩ := not_or.mp hnone
  rw [redact]
  split
  · rfl
  · rw [Redaction.redactText_of_no_document (not_exists.mp hreply)]
    cases hbody : outcome.testCase.expectedBody with
    | none =>
        simp only [← hbody]
        rfl
    | some body =>
        have hkept : (Redaction.redactText texts body).map some =
            .ok outcome.testCase.expectedBody := by
          rw [Redaction.redactText_of_no_document (fun v hv => hexpected ⟨body, v, hbody, hv⟩),
            hbody]
          rfl
        simp only [hkept]
        rfl

/-- When a body is a document, the first excluded path that cannot be read is told, no file
changes, and nothing is compared. When neither body is one, the verdict is the one without
excluded paths. -/
theorem verify_unreadable_path (settings : VerifierSettings) (files : Files) (outcome : Outcome)
    (bodyCheck : BodyCheck) (hbad : ∃ text ∈ texts, ∃ e, Path.parse text = .error e) :
    ∃ text fault, Path.FirstFault texts text fault ∧
      (outcome.HoldsDocument →
        outcome.verify settings files { excludedPaths := texts, bodyCheck } =
          ⟨.error (.path (.invalid text fault)), files⟩) ∧
      (¬ outcome.HoldsDocument →
        outcome.verify settings files { excludedPaths := texts, bodyCheck } =
          outcome.verify settings files { bodyCheck }) := by
  obtain ⟨text, fault, hfirst⟩ := Path.exists_firstFault hbad
  refine ⟨text, fault, hfirst, fun hdocument => ?_, fun hnone => ?_⟩
  · exact verify_of_path_error (redact_of_firstFault hfirst hdocument)
  · have hboth : outcome.redact texts = outcome.redact [] := by
      rw [redact_of_no_document hnone, redact_of_no_document hnone]
    rw [verify, verify, hboth]

end Outcome

end FirstFault

namespace Outcome

def answering (body contentType : String) : Outcome where
  reply :=
    { status := 200, headers := Table.ofList [("content-type", contentType)], text := body }
  testCase :=
    { name := "ping", url := "/", method := "get", allowRedirects := true, headers := ∅,
      cookies := ∅, requestBody := none, expectedStatus := 200, expectedBody := some body,
      expectedHeaders := none, filePath := "s/items.json", description := none }

theorem verify_early_wildcard :
    (∃ text ∈ ["id", "*a.b", "[x]"], ∃ e, Path.parse text = .error e) ∧
      (answering "[]" "application/json").verify { heal := true } (.empty [])
          { excludedPaths := ["id", "*a.b", "[x]"] } =
        ⟨.error (.path (.invalid "*a.b" .earlyWildcard)), .empty []⟩ := by
  have hbad : ∃ text ∈ ["id", "*a.b", "[x]"], ∃ e, Path.parse text = .error e :=
    ⟨"*a.b", by simp, _, rfl⟩
  obtain ⟨text, fault, hfirst, htold, -⟩ := verify_unreadable_path { heal := true } (.empty [])
    (answering "[]" "application/json") Comparison.checkBody hbad
  refine ⟨hbad, ?_⟩
  rw [htold (.inl ⟨.arr [], rfl⟩)]
  cases hfirst with
  | here hfault => cases hfault
  | behind _ hfirst =>
      cases hfirst with
      | here hfault => cases hfault; rfl
      | behind hpath => cases hpath

theorem verify_plain_text_passes :
    (∃ text ∈ ["*a.b"], ∃ e, Path.parse text = .error e) ∧
      (answering "OK" "text/plain").verify {} (.empty []) { excludedPaths := ["*a.b"] } =
        ⟨.ok (), .empty []⟩ := by
  refine ⟨⟨"*a.b", by simp, _, rfl⟩, ?_⟩
  rfl

end Outcome

end HttpScenario
