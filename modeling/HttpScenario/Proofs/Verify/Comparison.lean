import HttpScenario.Proofs.Verify.Redaction
import HttpScenario.Verify.Comparison

namespace HttpScenario

/-- The parts that are compared before one. -/
def MismatchKind.earlier : MismatchKind → List MismatchKind
  | .status => []
  | .body => [.status]
  | .headers => [.status, .body]

namespace Outcome

def HeadersMatch (outcome : Outcome) : Prop :=
  ∀ headers, outcome.testCase.expectedHeaders = some headers → headers.isEmpty = false →
    headers = outcome.reply.headers

/-- The bodies match when none is expected, or else apart from what paths address:
as documents when the reply is JSON, and as texts when it is not. -/
def BodiesMatch (outcome : Outcome) (paths : List Path) : Prop :=
  ∀ expected, outcome.testCase.expectedBody = some expected → expected ≠ "" →
    if outcome.reply.isJson then
      ∃ v w, Json.parse expected = .ok v ∧ Json.parse outcome.reply.text = .ok w ∧
        (v.withoutAll paths).same (w.withoutAll paths) = true
    else
      Redaction.textWithout paths expected = Redaction.textWithout paths outcome.reply.text

def Matches (outcome : Outcome) (paths : List Path) : MismatchKind → Prop
  | .status => outcome.testCase.expectedStatus = outcome.reply.status
  | .body => outcome.BodiesMatch paths
  | .headers => outcome.HeadersMatch

end Outcome

namespace Comparison

def Passes (bodyCheck : BodyCheck) (outcome : Outcome) : MismatchKind → Prop
  | .status => outcome.testCase.expectedStatus = outcome.reply.status
  | .body => bodyCheck outcome = .ok ()
  | .headers => outcome.HeadersMatch

theorem check_ok {bodyCheck : BodyCheck} {outcome : Outcome}
    (h : check bodyCheck outcome = .ok ()) : ∀ kind, Passes bodyCheck outcome kind := by
  rw [check] at h
  split at h
  · cases h
  · next hstatus =>
      split at h
      · cases h
      · next hbody =>
          intro kind
          cases kind with
          | status => exact Classical.not_not.mp hstatus
          | body => exact hbody
          | headers =>
              intro headers hheaders hsome
              rw [hheaders, Option.filter_some_pos (by simp [hsome])] at h
              by_contra hne
              simp only [if_neg hne] at h
              cases h

theorem check_error {bodyCheck : BodyCheck} {outcome : Outcome} {mismatch : Mismatch}
    (h : check bodyCheck outcome = .error mismatch) :
    mismatch.scenario = outcome.testCase.name ∧ mismatch.healFailure = none ∧
      ¬ Passes bodyCheck outcome mismatch.kind ∧
      ∀ kind ∈ mismatch.kind.earlier, Passes bodyCheck outcome kind := by
  rw [check] at h
  split at h
  · next hstatus =>
      cases h
      exact ⟨rfl, rfl, hstatus, fun _ hmem => nomatch hmem⟩
  · next hstatus =>
      have hsame : Passes bodyCheck outcome .status := Classical.not_not.mp hstatus
      split at h
      · next reason hbody =>
          cases h
          refine ⟨rfl, rfl, ?_, ?_⟩
          · intro hpass
            have hpassed : bodyCheck outcome = .ok () := hpass
            rw [hbody] at hpassed
            cases hpassed
          · intro kind hmem
            cases List.mem_singleton.mp hmem
            exact hsame
      · next hbody =>
          split at h
          · cases h
          · next headers hheaders =>
              obtain ⟨hsome, hfull⟩ := Option.filter_eq_some_iff.mp hheaders
              split at h
              · cases h
              · next hne =>
                  cases h
                  have hsent : headers.isEmpty = false := by simpa using hfull
                  refine ⟨rfl, rfl, fun hpass => hne (hpass headers hsome hsent), ?_⟩
                  intro kind hmem
                  rcases List.mem_cons.mp hmem with rfl | hmem
                  · exact hsame
                  · cases List.mem_singleton.mp hmem
                    exact hbody

theorem checkBody_ok_iff (outcome : Outcome) :
    checkBody outcome = .ok () ↔
      ∀ expected, outcome.testCase.expectedBody = some expected → expected ≠ "" →
        if outcome.reply.isJson then
          ∃ v w, Json.parse expected = .ok v ∧ outcome.reply.json = .ok w ∧ v.same w = true
        else expected = outcome.reply.text := by
  rw [checkBody]
  cases hbody : outcome.testCase.expectedBody with
  | none => simp
  | some expected =>
      by_cases hempty : expected = ""
      · subst hempty
        refine iff_of_true rfl ?_
        rintro expected ⟨⟩ hne
        exact absurd rfl hne
      · have hfilter : (some expected).filter (!·.isEmpty) = some expected :=
          Option.filter_some_pos (by simp [hempty])
        rw [hfilter]
        simp only [Option.some.injEq, forall_eq', ne_eq, hempty, not_false_eq_true,
          forall_const]
        cases outcome.reply.isJson with
        | false => simp
        | true =>
            cases hexpected : Json.parse expected with
            | error e => simp
            | ok v =>
                cases hactual : outcome.reply.json with
                | error e => simp
                | ok w => simp

end Comparison

end HttpScenario
