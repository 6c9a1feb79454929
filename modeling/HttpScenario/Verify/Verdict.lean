import HttpScenario.Scenario.Heal
import HttpScenario.Settings
import HttpScenario.Verify.Comparison
import HttpScenario.Verify.Redaction

namespace HttpScenario

structure VerifyOptions where
  excludedPaths : List String := []
  bodyCheck : BodyCheck := Comparison.checkBody

structure Verdict where
  result : Except Failure Unit
  files : Files

/-- Heals the scenario of a mismatch, if the settings say so. The mismatch stays
what it is and tells why the healing failed, if it did. -/
def Mismatch.settle (settings : VerifierSettings) (files : Files) (outcome : Outcome)
    (mismatch : Mismatch) : Verdict :=
  if settings.heal then
    match outcome.rewrite settings.healHeaders files with
    | .ok () healed => ⟨.error (.mismatch mismatch), healed⟩
    | .error failure left =>
        ⟨.error (.mismatch { mismatch with healFailure := some failure }), left⟩
  else ⟨.error (.mismatch mismatch), files⟩

/-- Checks an outcome without its excluded parts. It is the whole reply that a
scenario is healed by. -/
def Outcome.verify (settings : VerifierSettings) (files : Files) (outcome : Outcome)
    (options : VerifyOptions) : Verdict :=
  match outcome.redact options.excludedPaths with
  | .error e => ⟨.error (.path e), files⟩
  | .ok compared =>
      match Comparison.check options.bodyCheck compared with
      | .ok () => ⟨.ok (), files⟩
      | .error mismatch => mismatch.settle settings files outcome

end HttpScenario
