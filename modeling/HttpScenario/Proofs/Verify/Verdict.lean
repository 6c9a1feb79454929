import HttpScenario.Proofs.Scenario.HealedFile
import HttpScenario.Proofs.Verify.Comparison
import HttpScenario.Verify.Verdict

namespace HttpScenario

/-- A text that is no document, or whose document is read back from its compact form. -/
def Json.Reprints (text : String) : Prop :=
  ∀ v, Json.parse text = .ok v → Json.parse v.compact = .ok v

theorem Json.Reprints.readsBack {text : String} {v : Json} (h : Json.Reprints text)
    (hparse : Json.parse text = .ok v) : v.ReadsBack :=
  (Json.parse_compact_eq_iff (Json.wellFormed_of_parse hparse)
    (Json.depth_le_of_parse hparse)).mp (h v hparse)

namespace Outcome

theorem isJson_without (outcome : Outcome) (paths : List Path) :
    (outcome.without paths).reply.isJson = outcome.reply.isJson := rfl

theorem expectedBody_without {outcome : Outcome} {body : String}
    (h : outcome.testCase.expectedBody = some body) (paths : List Path) :
    (outcome.without paths).testCase.expectedBody =
      some (Redaction.textWithout paths body) := by
  rw [without, h]
  rfl

theorem same_textWithout {expected actual : String} (hexpected : Json.Reprints expected)
    (hactual : Json.Reprints actual) (paths : List Path) :
    (∃ v w, Json.parse (Redaction.textWithout paths expected) = .ok v ∧
        Json.parse (Redaction.textWithout paths actual) = .ok w ∧ v.same w = true) ↔
      ∃ v w, Json.parse expected = .ok v ∧ Json.parse actual = .ok w ∧
        (v.withoutAll paths).same (w.withoutAll paths) = true := by
  constructor
  · rintro ⟨v', w', hv', hw', hsame⟩
    cases hv : Json.parse expected with
    | error e =>
        rw [Redaction.textWithout_of_error hv, hv] at hv'
        cases hv'
    | ok v =>
        cases hw : Json.parse actual with
        | error e =>
            rw [Redaction.textWithout_of_error hw, hw] at hw'
            cases hw'
        | ok w =>
            refine ⟨v, w, rfl, rfl, ?_⟩
            rw [← Redaction.same_of_parse_textWithout hv (hexpected.readsBack hv) hv'
              hw (hactual.readsBack hw) hw']
            exact hsame
  · rintro ⟨v, w, hv, hw, hsame⟩
    obtain ⟨v', hv', -⟩ := Redaction.parse_textWithout hv (hexpected.readsBack hv) paths
    obtain ⟨w', hw', -⟩ := Redaction.parse_textWithout hw (hactual.readsBack hw) paths
    refine ⟨v', w', hv', hw', ?_⟩
    rw [Redaction.same_of_parse_textWithout hv (hexpected.readsBack hv) hv'
      hw (hactual.readsBack hw) hw']
    exact hsame

theorem bodiesMatch_iff {outcome : Outcome} {paths : List Path}
    (hreply : Json.Reprints outcome.reply.text)
    (hexpected : ∀ body, outcome.testCase.expectedBody = some body → Json.Reprints body) :
    Comparison.checkBody (outcome.without paths) = .ok () ↔ outcome.BodiesMatch paths := by
  rw [Comparison.checkBody_ok_iff, isJson_without, BodiesMatch]
  cases hbody : outcome.testCase.expectedBody with
  | none =>
      have hnone : (outcome.without paths).testCase.expectedBody = none := by
        rw [without, hbody]
        rfl
      simp [hnone]
  | some body =>
      rw [expectedBody_without hbody]
      simp only [Option.some.injEq, forall_eq', ne_eq, Redaction.textWithout_eq_empty]
      refine imp_congr_right fun hne => ?_
      cases outcome.reply.isJson with
      | false => rfl
      | true => exact same_textWithout (hexpected body hbody) hreply paths

theorem passes_iff_matches {outcome : Outcome} {paths : List Path}
    (hreply : Json.Reprints outcome.reply.text)
    (hexpected : ∀ body, outcome.testCase.expectedBody = some body → Json.Reprints body)
    (kind : MismatchKind) :
    Comparison.Passes Comparison.checkBody (outcome.without paths) kind ↔
      outcome.Matches paths kind := by
  cases kind with
  | status => rfl
  | body => exact bodiesMatch_iff hreply hexpected
  | headers => rfl

end Outcome

namespace Mismatch

variable {settings : VerifierSettings} {files healed : Files} {outcome : Outcome}
  {failure : HealFailure}

theorem settle_of_off (hoff : settings.heal = false) (mismatch : Mismatch) :
    mismatch.settle settings files outcome = ⟨.error (.mismatch mismatch), files⟩ := by
  rw [settle, if_neg (by simp [hoff])]

theorem settle_of_healed (hon : settings.heal = true)
    (hheal : outcome.heal files settings.healHeaders = .ok healed) (mismatch : Mismatch) :
    mismatch.settle settings files outcome = ⟨.error (.mismatch mismatch), healed⟩ := by
  obtain ⟨_, hrewrite⟩ := Work.outcome_eq_ok.mp hheal
  rw [settle, if_pos hon, hrewrite]

theorem settle_of_failure (hon : settings.heal = true)
    (hheal : outcome.heal files settings.healHeaders = .error failure) (mismatch : Mismatch) :
    mismatch.settle settings files outcome =
      ⟨.error (.mismatch { mismatch with healFailure := some failure }), files⟩ := by
  have hrewrite := (outcome.rewrite_allOrNothing settings.healHeaders).of_outcome_error hheal
  rw [settle, if_pos hon, hrewrite]

theorem settle_result (settings : VerifierSettings) (files : Files) (outcome : Outcome)
    (mismatch : Mismatch) :
    ∃ told, (mismatch.settle settings files outcome).result = .error (.mismatch told) ∧
      told.scenario = mismatch.scenario ∧ told.kind = mismatch.kind := by
  cases hheal : settings.heal with
  | false => exact ⟨mismatch, by rw [settle_of_off hheal], rfl, rfl⟩
  | true =>
      cases houtcome : outcome.heal files settings.healHeaders with
      | ok healed => exact ⟨mismatch, by rw [settle_of_healed hheal houtcome], rfl, rfl⟩
      | error failure =>
          exact ⟨{ mismatch with healFailure := some failure },
            by rw [settle_of_failure hheal houtcome], rfl, rfl⟩

end Mismatch

namespace Outcome

section Verify

variable {settings : VerifierSettings} {files : Files} {outcome compared : Outcome}
  {options : VerifyOptions} {e : PathError} {mismatch : Mismatch}

theorem verify_of_path_error (hredact : outcome.redact options.excludedPaths = .error e) :
    outcome.verify settings files options = ⟨.error (.path e), files⟩ := by
  rw [verify, hredact]

theorem verify_of_match (hredact : outcome.redact options.excludedPaths = .ok compared)
    (hcheck : Comparison.check options.bodyCheck compared = .ok ()) :
    outcome.verify settings files options = ⟨.ok (), files⟩ := by
  rw [verify, hredact]
  simp only [hcheck]

theorem verify_of_mismatch (hredact : outcome.redact options.excludedPaths = .ok compared)
    (hcheck : Comparison.check options.bodyCheck compared = .error mismatch) :
    outcome.verify settings files options = mismatch.settle settings files outcome := by
  rw [verify, hredact]
  simp only [hcheck]

end Verify

theorem verify_ok_iff {settings : VerifierSettings} {files : Files} {outcome compared : Outcome}
    {options : VerifyOptions} (hredact : outcome.redact options.excludedPaths = .ok compared) :
    (outcome.verify settings files options).result = .ok () ↔
      ∀ kind, Comparison.Passes options.bodyCheck compared kind := by
  cases hcheck : Comparison.check options.bodyCheck compared with
  | ok done =>
      rw [verify_of_match hredact hcheck]
      exact iff_of_true rfl (Comparison.check_ok hcheck)
  | error mismatch =>
      obtain ⟨-, -, hfails, -⟩ := Comparison.check_error hcheck
      obtain ⟨told, hresult, -, -⟩ := mismatch.settle_result settings files outcome
      rw [verify_of_mismatch hredact hcheck, hresult]
      exact iff_of_false nofun fun hall => hfails (hall mismatch.kind)

theorem verify_first_failure {settings : VerifierSettings} {files : Files}
    {outcome compared : Outcome} {options : VerifyOptions}
    (hredact : outcome.redact options.excludedPaths = .ok compared)
    (hfails : ∃ kind, ¬ Comparison.Passes options.bodyCheck compared kind) :
    ∃ mismatch,
      (outcome.verify settings files options).result = .error (.mismatch mismatch) ∧
        mismatch.scenario = compared.testCase.name ∧
        ¬ Comparison.Passes options.bodyCheck compared mismatch.kind ∧
        ∀ kind ∈ mismatch.kind.earlier, Comparison.Passes options.bodyCheck compared kind := by
  cases hcheck : Comparison.check options.bodyCheck compared with
  | ok done =>
      obtain ⟨kind, hkind⟩ := hfails
      exact absurd (Comparison.check_ok hcheck kind) hkind
  | error mismatch =>
      obtain ⟨hscenario, -, hfirst, hearlier⟩ := Comparison.check_error hcheck
      obtain ⟨told, hresult, htold, hkind⟩ := mismatch.settle_result settings files outcome
      rw [verify_of_mismatch hredact hcheck, hresult]
      refine ⟨told, rfl, htold.trans hscenario, ?_, ?_⟩
      · rw [hkind]
        exact hfirst
      · rw [hkind]
        exact hearlier

/-- The verdict is good exactly when every part of the reply matches, and otherwise
tells the first part that does not. -/
theorem verify_compares (settings : VerifierSettings) (files : Files) (outcome : Outcome)
    {texts : List String} {paths : List Path} (hpaths : ReadAsPaths texts paths)
    (hreply : Json.Reprints outcome.reply.text)
    (hexpected : ∀ body, outcome.testCase.expectedBody = some body → Json.Reprints body) :
    ((outcome.verify settings files { excludedPaths := texts }).result = .ok () ↔
        ∀ kind, outcome.Matches paths kind) ∧
      ((∃ kind, ¬ outcome.Matches paths kind) →
        ∃ mismatch,
          (outcome.verify settings files { excludedPaths := texts }).result =
              .error (.mismatch mismatch) ∧
            mismatch.scenario = outcome.testCase.name ∧
            ¬ outcome.Matches paths mismatch.kind ∧
            ∀ kind ∈ mismatch.kind.earlier, outcome.Matches paths kind) := by
  have hredact : outcome.redact ({ excludedPaths := texts } : VerifyOptions).excludedPaths =
      .ok (outcome.without paths) := redact_eq hpaths outcome
  have hmatches : ∀ kind, Comparison.Passes Comparison.checkBody (outcome.without paths) kind ↔
      outcome.Matches paths kind := passes_iff_matches hreply hexpected
  constructor
  · rw [verify_ok_iff hredact]
    exact forall_congr' hmatches
  · rintro ⟨kind, hkind⟩
    have hfails : ∃ kind,
        ¬ Comparison.Passes Comparison.checkBody (outcome.without paths) kind :=
      ⟨kind, fun hpass => hkind ((hmatches kind).mp hpass)⟩
    obtain ⟨mismatch, hresult, hscenario, hfirst, hearlier⟩ :=
      verify_first_failure hredact hfails
    exact ⟨mismatch, hresult, hscenario, fun h => hfirst ((hmatches _).mpr h),
      fun other hother => (hmatches other).mp (hearlier other hother)⟩

end Outcome

namespace Json

def oneAndHalf : Number := .float ⟨false, 4609434218613702656, by decide⟩

theorem readBack?_oneAndHalf : oneAndHalf.readBack? = some oneAndHalf := by decide +kernel

def pricedOrder (id : Nat) : Json := .obj [("price", .num oneAndHalf), ("id", .ofNat id)]

theorem pricedOrder_wellFormed {id : Nat} (hid : id < 2 ^ 64) :
    (pricedOrder id).WellFormed := by
  refine .obj (by simp [Members.Distinct, Members.names]) ?_
  intro member hmember
  simp only [List.mem_cons, List.not_mem_nil, or_false] at hmember
  rcases hmember with rfl | rfl
  · exact .num trivial
  · exact .num ⟨by omega, by omega⟩

theorem pricedOrder_readsBack (id : Nat) : (pricedOrder id).ReadsBack := by
  refine readsBack_obj.mpr ?_
  intro member hmember
  simp only [List.mem_cons, List.not_mem_nil, or_false] at hmember
  rcases hmember with rfl | rfl
  · rw [ReadsBack, readBack?, readBack?_oneAndHalf]
    rfl
  · rfl

theorem parse_pricedOrder {id : Nat} (hid : id < 2 ^ 64) :
    parse (pricedOrder id).compact = .ok (pricedOrder id) :=
  parse_compact_eq (pricedOrder_wellFormed hid) (show 1 ≤ depthLimit by decide)
    (pricedOrder_readsBack id)

theorem reprints_pricedOrder {id : Nat} (hid : id < 2 ^ 64) :
    Reprints (pricedOrder id).compact := by
  intro v hv
  cases (parse_pricedOrder hid).symm.trans hv
  exact parse_pricedOrder hid

end Json

def orderOutcome : Outcome where
  reply := { status := 200, headers := Table.ofList [("content-type", "application/json")],
             text := (Json.pricedOrder 7).compact }
  testCase :=
    { name := "order", url := "/orders", method := "get", allowRedirects := true,
      headers := ∅, cookies := ∅, requestBody := none, expectedStatus := 200,
      expectedBody := some (Json.pricedOrder 8).compact, expectedHeaders := none,
      filePath := "orders.json", description := none }

theorem verify_order :
    (orderOutcome.verify {} (.empty []) { excludedPaths := ["id"] }).result = .ok () := by
  have hpaths : ReadAsPaths ["id"] [⟨"id", [], .key "id"⟩] := .cons rfl .nil
  have hreply : Json.Reprints orderOutcome.reply.text := Json.reprints_pricedOrder (by decide)
  have hexpected : ∀ body, orderOutcome.testCase.expectedBody = some body →
      Json.Reprints body := by
    intro body hbody
    rw [← (Option.some.inj hbody : (Json.pricedOrder 8).compact = body)]
    exact Json.reprints_pricedOrder (by decide)
  refine (orderOutcome.verify_compares {} (.empty []) hpaths hreply hexpected).1.mpr ?_
  intro kind
  cases kind with
  | status => rfl
  | body =>
      intro expected hbody hne
      have hjson : orderOutcome.reply.isJson = true := by decide +kernel
      rw [if_pos hjson]
      refine ⟨Json.pricedOrder 8, Json.pricedOrder 7, ?_, ?_, by decide +kernel⟩
      · rw [← (Option.some.inj hbody : (Json.pricedOrder 8).compact = expected)]
        exact Json.parse_pricedOrder (by decide)
      · exact Json.parse_pricedOrder (by decide)
  | headers => exact nofun

end HttpScenario
