import HttpScenario.Proofs.Verify.Verdict

namespace HttpScenario

/-! Files change by the healing of a mismatch alone, and it is the whole reply that
heals. Healing never changes what is told about a reply. -/

/-- What becomes of a good verdict and of a path that cannot be read. -/
def Verdict.Quiet (verdict : Verdict) (files : Files) : Prop :=
  (verdict.result = .ok () ∨ ∃ e, verdict.result = .error (.path e)) ∧ verdict.files = files

def Verdict.Mismatched (verdict : Verdict) : Prop :=
  ∃ mismatch, verdict.result = .error (.mismatch mismatch)

theorem Verdict.Quiet.not_mismatched {verdict : Verdict} {files : Files}
    (h : verdict.Quiet files) : ¬ verdict.Mismatched := by
  rintro ⟨mismatch, hresult⟩
  rcases h.1 with hok | ⟨e, herror⟩
  · cases hok.symm.trans hresult
  · cases herror.symm.trans hresult

/-- What healing did to the verdict `off` on a mismatch: the files are those that it
made, or the mismatch tells why it failed. -/
inductive Verdict.HealedBy (heal : Except HealFailure Files) (files : Files) :
    (off on : Verdict) → Prop where
  | healed {mismatch : Mismatch} {healed : Files} (hfresh : mismatch.healFailure = none)
      (hheal : heal = .ok healed) :
      HealedBy heal files ⟨.error (.mismatch mismatch), files⟩
        ⟨.error (.mismatch mismatch), healed⟩
  | failed {mismatch : Mismatch} {failure : HealFailure}
      (hfresh : mismatch.healFailure = none) (hheal : heal = .error failure) :
      HealedBy heal files ⟨.error (.mismatch mismatch), files⟩
        ⟨.error (.mismatch { mismatch with healFailure := some failure }), files⟩

theorem Verdict.HealedBy.files_before {heal : Except HealFailure Files} {files : Files}
    {off on : Verdict} (h : Verdict.HealedBy heal files off on) : off.files = files := by
  cases h <;> rfl

theorem Verdict.HealedBy.files_eq {heal : Except HealFailure Files} {files : Files}
    {off on : Verdict} (h : Verdict.HealedBy heal files off on) :
    on.files = heal.toOption.getD files := by
  cases h with
  | healed hfresh hheal =>
      rw [hheal]
      rfl
  | failed hfresh hheal =>
      rw [hheal]
      rfl

namespace Outcome

theorem verify_quiet_or_healed (settings : VerifierSettings) (files : Files)
    (outcome : Outcome) (options : VerifyOptions) :
    (outcome.verify { settings with heal := true } files options =
        outcome.verify { settings with heal := false } files options ∧
      (outcome.verify { settings with heal := false } files options).Quiet files) ∨
    Verdict.HealedBy (outcome.heal files settings.healHeaders) files
      (outcome.verify { settings with heal := false } files options)
      (outcome.verify { settings with heal := true } files options) := by
  cases hredact : outcome.redact options.excludedPaths with
  | error e =>
      left
      rw [verify_of_path_error hredact, verify_of_path_error hredact]
      exact ⟨rfl, .inr ⟨e, rfl⟩, rfl⟩
  | ok compared =>
      cases hcheck : Comparison.check options.bodyCheck compared with
      | ok done =>
          left
          rw [verify_of_match hredact hcheck, verify_of_match hredact hcheck]
          exact ⟨rfl, .inl rfl, rfl⟩
      | error mismatch =>
          right
          have hfresh := (Comparison.check_error hcheck).2.1
          rw [verify_of_mismatch hredact hcheck, verify_of_mismatch hredact hcheck,
            Mismatch.settle_of_off rfl]
          have hon : ({ settings with heal := true } : VerifierSettings).heal = true := rfl
          cases hheal : outcome.heal files settings.healHeaders with
          | ok healed =>
              rw [Mismatch.settle_of_healed hon hheal]
              exact .healed hfresh rfl
          | error failure =>
              rw [Mismatch.settle_of_failure hon hheal]
              exact .failed hfresh rfl

theorem verify_files_of_mismatched {settings : VerifierSettings} {files : Files}
    {outcome : Outcome} {options : VerifyOptions}
    (h : (outcome.verify { settings with heal := true } files options).Mismatched) :
    (outcome.verify { settings with heal := true } files options).files =
      (outcome.heal files settings.healHeaders).toOption.getD files := by
  rcases outcome.verify_quiet_or_healed settings files options with ⟨hsame, hquiet⟩ | hhealed
  · rw [hsame] at h
    exact absurd h hquiet.not_mismatched
  · exact hhealed.files_eq

theorem heal_of_verify {settings : VerifierSettings} {files healed : Files}
    {outcome : Outcome} {options : VerifyOptions} {mismatch : Mismatch}
    (h : outcome.verify { settings with heal := true } files options =
      ⟨.error (.mismatch mismatch), healed⟩)
    (hhealed : mismatch.healFailure = none) :
    outcome.heal files settings.healHeaders = .ok healed := by
  rcases outcome.verify_quiet_or_healed settings files options with ⟨hsame, hquiet⟩ | hsettled
  · rw [← hsame, h] at hquiet
    exact absurd ⟨mismatch, rfl⟩ hquiet.not_mismatched
  · rw [h] at hsettled
    generalize outcome.verify { settings with heal := false } files options = off at hsettled
    cases hsettled with
    | healed hfresh hheal => exact hheal
    | failed hfresh hheal => cases hhealed

/-- Without healing no file changes. With it a good verdict and one about a path stay
as they are, files included, and one about a mismatch differs by the healing of the whole
outcome: by the files that it makes, which are the same whatever is left out and however
bodies are checked, or by its failure, which leaves the files as they are. -/
theorem verify_effects (settings : VerifierSettings) (files : Files) (outcome : Outcome)
    (options others : VerifyOptions) :
    (outcome.verify { settings with heal := false } files options).files = files ∧
      ((outcome.verify { settings with heal := true } files options =
            outcome.verify { settings with heal := false } files options ∧
          (outcome.verify { settings with heal := false } files options).Quiet files) ∨
        Verdict.HealedBy (outcome.heal files settings.healHeaders) files
          (outcome.verify { settings with heal := false } files options)
          (outcome.verify { settings with heal := true } files options)) ∧
      ((outcome.verify { settings with heal := true } files options).Mismatched ∧
          (outcome.verify { settings with heal := true } files others).Mismatched →
        (outcome.verify { settings with heal := true } files options).files =
          (outcome.verify { settings with heal := true } files others).files) := by
  have hcases := outcome.verify_quiet_or_healed settings files options
  refine ⟨?_, hcases, ?_⟩
  · rcases hcases with ⟨-, hquiet⟩ | hhealed
    · exact hquiet.2
    · exact hhealed.files_before
  · rintro ⟨hone, hother⟩
    rw [verify_files_of_mismatched hone, verify_files_of_mismatched hother]

end Outcome

end HttpScenario
