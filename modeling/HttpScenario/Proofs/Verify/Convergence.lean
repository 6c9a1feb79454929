import HttpScenario.Proofs.Scenario.Reload
import HttpScenario.Proofs.Verify.Effects
import HttpScenario.Proofs.Verify.KeptText

namespace HttpScenario

/-! A scenario that was healed by a reply is met by that reply, unless the reply is said
to be JSON and is not. -/

namespace Reply

variable {reply : Reply}

/-- A reply whose body can be expected of itself: it is empty, or not said to be JSON, or
it is JSON. -/
def SaysWhatItIs (reply : Reply) : Prop :=
  reply.text = "" ∨ reply.isJson = false ∨ ∃ v, reply.json = .ok v

/-- The document of a reply is read back from its compact form. -/
def Reprints (reply : Reply) : Prop :=
  ∀ body, reply.IsDocument body → Json.parse body.compact = .ok body

theorem Reprints.storedBody?_readsBack (h : reply.Reprints) {body : Json}
    (hstored : reply.storedBody? = some body) : body.ReadsBack := by
  rcases storedBody?_eq_some hstored with rfl | ⟨hjson, hcontainer, hsaid⟩
  · rfl
  · exact (Json.parse_compact_eq_iff (Json.wellFormed_of_parse hjson)
      (Json.depth_le_of_parse hjson)).mp (h body ⟨hsaid, hjson, hcontainer⟩)

theorem textWithout_of_no_document (hsaid : reply.isJson = true)
    (hnone : ∀ body, ¬ reply.IsDocument body) (paths : List Path) :
    Redaction.textWithout paths reply.text = reply.text := by
  cases hparse : Json.parse reply.text with
  | error e => exact Redaction.textWithout_of_error hparse paths
  | ok v =>
      cases hcontainer : v.isContainer with
      | false => exact Redaction.textWithout_of_scalar hparse hcontainer paths
      | true => exact absurd ⟨hsaid, hparse, hcontainer⟩ (hnone v)

end Reply

namespace Outcome

variable {outcome : Outcome}

theorem checkBody_of_text (hbody : outcome.testCase.expectedBody = some outcome.reply.text)
    (hfull : outcome.reply.text ≠ "") (hnone : ∀ body, ¬ outcome.reply.IsDocument body)
    (paths : List Path) :
    Comparison.checkBody (outcome.without paths) = .ok () ↔ outcome.reply.SaysWhatItIs := by
  rw [Comparison.checkBody_ok_iff, isJson_without, expectedBody_without hbody]
  simp only [Option.some.injEq, forall_eq', ne_eq, Redaction.textWithout_eq_empty]
  cases hsaid : outcome.reply.isJson with
  | false => exact iff_of_true (fun _ => rfl) (.inr (.inl hsaid))
  | true =>
      have hkept := Reply.textWithout_of_no_document hsaid hnone paths
      have hjson : (outcome.without paths).reply.json = outcome.reply.json :=
        congrArg Json.parse hkept
      rw [if_pos rfl, hkept, hjson]
      constructor
      · intro h
        obtain ⟨v, -, hv, -⟩ := h hfull
        exact .inr (.inr ⟨v, hv⟩)
      · rintro (hempty | hplain | ⟨v, hv⟩) -
        · exact absurd hempty hfull
        · cases hsaid.symm.trans hplain
        · exact ⟨v, v, hv, hv, Json.same_refl (Json.wellFormed_of_parse hv)⟩

theorem checkBody_of_document {body : Json}
    (hbody : outcome.testCase.expectedBody = some body.compact)
    (hdocument : outcome.reply.IsDocument body) (hreply : outcome.reply.Reprints)
    (paths : List Path) : Comparison.checkBody (outcome.without paths) = .ok () := by
  have hback := hreply body hdocument
  have htext : Json.Reprints outcome.reply.text := by
    intro v hv
    cases hdocument.json.symm.trans hv
    exact hback
  have hexpected : ∀ text, outcome.testCase.expectedBody = some text → Json.Reprints text := by
    intro text h v hv
    cases hbody.symm.trans h
    cases hback.symm.trans hv
    exact hback
  have hleft : (body.withoutAll paths).WellFormed := Redaction.withoutAll_wellFormed hback
  rw [bodiesMatch_iff htext hexpected, BodiesMatch, hbody]
  rintro text ⟨⟩ -
  rw [if_pos hdocument.said]
  exact ⟨body, body, hback, hdocument.json, Json.same_refl hleft⟩

theorem checkBody_of_storedAs {stored : Option Json} (hstored : outcome.reply.StoredAs stored)
    (hbody : outcome.testCase.expectedBody = stored.map Json.plainText)
    (hreply : outcome.reply.Reprints) (paths : List Path) :
    Comparison.checkBody (outcome.without paths) = .ok () ↔ outcome.reply.SaysWhatItIs := by
  cases hstored with
  | nothing hempty =>
      have hnone : (outcome.without paths).testCase.expectedBody = none := by
        rw [without, hbody]
        rfl
      rw [Comparison.checkBody_ok_iff, hnone]
      refine iff_of_true ?_ (.inl hempty)
      intro expected hexpected
      cases hexpected
  | @document body hdocument =>
      have hcompact : outcome.testCase.expectedBody = some body.compact := by
        have hcontainer := hdocument.container
        cases body with
        | arr items => exact hbody
        | obj members => exact hbody
        | _ => cases hcontainer
      exact iff_of_true (checkBody_of_document hcompact hdocument hreply paths)
        (.inr (.inr ⟨body, hdocument.json⟩))
  | text hfull hnone => exact checkBody_of_text hbody hfull hnone paths

theorem passes_after_heal {files healed : Files} {directory file name : String} {reply : Reply}
    {again : TestCase}
    (hheal : ScenarioFile.heal files (joinPath directory file) name reply true = .ok healed)
    (hlower : ∀ entry ∈ reply.headers.entries, Text.lower entry.1 = entry.1)
    (hreference : reference? reply.text = none) (hreply : reply.Reprints)
    (hagain : TestCase.load .plain healed directory file name {} = .ok again)
    (paths : List Path) (kind : MismatchKind) :
    Comparison.Passes Comparison.checkBody ((⟨reply, again⟩ : Outcome).without paths) kind ↔
      (kind = .body → reply.SaysWhatItIs) := by
  obtain ⟨hstatus, hbody, hheaders⟩ := TestCase.load_of_heal hheal hlower hreference
    (fun _ => hreply.storedBody?_readsBack) hagain
  cases kind with
  | status => exact iff_of_true hstatus nofun
  | body =>
      have hcheck : Comparison.checkBody ((⟨reply, again⟩ : Outcome).without paths) = .ok () ↔
          reply.SaysWhatItIs := checkBody_of_storedAs reply.storedAs_storedBody? hbody hreply paths
      exact hcheck.trans ⟨fun h _ => h, fun h => h rfl⟩
  | headers =>
      refine iff_of_true ?_ nofun
      intro headers hexpected hfull
      exact Option.some.inj (hexpected.symm.trans hheaders)

theorem verify_after_heal {files healed : Files} {directory file name : String} {reply : Reply}
    {again : TestCase} {texts : List String} {paths : List Path}
    (hpaths : ReadAsPaths texts paths)
    (hlower : ∀ entry ∈ reply.headers.entries, Text.lower entry.1 = entry.1)
    (hreference : reference? reply.text = none) (hreply : reply.Reprints)
    (hheal : ScenarioFile.heal files (joinPath directory file) name reply true = .ok healed)
    (hagain : TestCase.load .plain healed directory file name {} = .ok again)
    (settings : VerifierSettings) :
    (((⟨reply, again⟩ : Outcome).verify settings healed { excludedPaths := texts }).result =
        .ok () ↔ reply.SaysWhatItIs) ∧
      (¬ reply.SaysWhatItIs → ∃ told,
        ((⟨reply, again⟩ : Outcome).verify settings healed { excludedPaths := texts }).result =
            .error (.mismatch told) ∧
          told.kind = .body) := by
  have hpasses := passes_after_heal hheal hlower hreference hreply hagain paths
  have hredact : (⟨reply, again⟩ : Outcome).redact
      ({ excludedPaths := texts } : VerifyOptions).excludedPaths =
        .ok ((⟨reply, again⟩ : Outcome).without paths) := redact_eq hpaths _
  constructor
  · rw [verify_ok_iff hredact]
    exact ⟨fun hall => (hpasses .body).mp (hall .body) rfl,
      fun hsays kind => (hpasses kind).mpr fun _ => hsays⟩
  · intro hsays
    have hfails : ∃ kind, ¬ Comparison.Passes Comparison.checkBody
        ((⟨reply, again⟩ : Outcome).without paths) kind :=
      ⟨.body, fun hpass => hsays ((hpasses .body).mp hpass rfl)⟩
    obtain ⟨told, hresult, -, htold, -⟩ := verify_first_failure hredact hfails
    refine ⟨told, hresult, ?_⟩
    by_contra hkind
    exact htold ((hpasses told.kind).mpr fun heq => absurd heq hkind)

end Outcome

namespace Reply

/-- The second verdict on a reply: the first one tells a mismatch, the scenario is healed
by the reply, headers included, and loaded again, and that is what the reply is checked
against. Nothing, when it does not come to that. -/
def verdictAgain? (reply : Reply) (files : Files) (directory file name : String)
    (excludedPaths : List String) : Option (Except Failure Unit) :=
  match TestCase.load .plain files directory file name {} with
  | .error _ => none
  | .ok testCase =>
      let first := (⟨reply, testCase⟩ : Outcome).verify ⟨true, true⟩ files { excludedPaths }
      match first.result with
      | .error (.mismatch mismatch) =>
          if mismatch.healFailure.isSome then none
          else
            match TestCase.load .plain first.files directory file name {} with
            | .error _ => none
            | .ok again =>
                some ((⟨reply, again⟩ : Outcome).verify ⟨true, true⟩ first.files
                  { excludedPaths }).result
      | _ => none

variable {reply : Reply} {files : Files} {directory file name : String} {texts : List String}
  {result : Except Failure Unit}

theorem of_verdictAgain? (h : reply.verdictAgain? files directory file name texts = some result) :
    ∃ testCase mismatch healed again,
      TestCase.load .plain files directory file name {} = .ok testCase ∧
        (⟨reply, testCase⟩ : Outcome).verify ⟨true, true⟩ files { excludedPaths := texts } =
          ⟨.error (.mismatch mismatch), healed⟩ ∧
        mismatch.healFailure = none ∧
        TestCase.load .plain healed directory file name {} = .ok again ∧
        ((⟨reply, again⟩ : Outcome).verify ⟨true, true⟩ healed
          { excludedPaths := texts }).result = result := by
  unfold verdictAgain? at h
  cases hload : TestCase.load .plain files directory file name {} with
  | error e =>
      simp only [hload] at h
      cases h
  | ok testCase =>
      simp only [hload] at h
      generalize hverify : (⟨reply, testCase⟩ : Outcome).verify ⟨true, true⟩ files
        { excludedPaths := texts } = first at h
      obtain ⟨told, healed⟩ := first
      cases told with
      | ok done => cases h
      | error failure =>
          cases failure with
          | mismatch mismatch =>
              simp only at h
              split at h
              · cases h
              · next hhealed =>
                  cases hagain : TestCase.load .plain healed directory file name {} with
                  | error e =>
                      simp only [hagain] at h
                      cases h
                  | ok again =>
                      simp only [hagain] at h
                      exact ⟨testCase, mismatch, healed, again, rfl, hverify,
                        by simpa using hhealed, hagain, Option.some.inj h⟩
          | _ => cases h

/-- The second verdict on a reply is good exactly when the reply says what it is; otherwise
it tells that the bodies do not match. -/
theorem verdictAgain?_good_iff {paths : List Path} (hpaths : ReadAsPaths texts paths)
    (hlower : ∀ entry ∈ reply.headers.entries, Text.lower entry.1 = entry.1)
    (hreference : reference? reply.text = none) (hreply : reply.Reprints)
    (h : reply.verdictAgain? files directory file name texts = some result) :
    (result = .ok () ↔ reply.SaysWhatItIs) ∧
      (¬ reply.SaysWhatItIs → ∃ told, result = .error (.mismatch told) ∧ told.kind = .body) := by
  obtain ⟨testCase, mismatch, healed, again, hload, hverify, hhealed, hagain, rfl⟩ :=
    of_verdictAgain? h
  have hon : (⟨reply, testCase⟩ : Outcome).verify
      { (⟨true, true⟩ : VerifierSettings) with heal := true } files { excludedPaths := texts } =
        ⟨.error (.mismatch mismatch), healed⟩ := hverify
  have hheal := Outcome.heal_eq_ok.mp (Outcome.heal_of_verify hon hhealed)
  obtain ⟨loaded, hloaded, htestCase⟩ := TestCase.load_eq_ok hload
  obtain ⟨hloadedName, hloadedPath, -⟩ := Loaded.load_eq_ok hloaded
  obtain ⟨hname, hpath, -⟩ := Loaded.toTestCase_eq_ok htestCase
  simp only [hname, hpath, hloadedName, hloadedPath] at hheal
  exact Outcome.verify_after_heal hpaths hlower hreference hreply hheal hagain _

def pingTree : Files :=
  ⟨[(["s"], .file
    "\x7b\"ping\":\x7b\"url\":\"/\",\"method\":\"get\",\"status\":200\x7d\x7d".toUTF8)], []⟩

def failed (text : String) : Reply where
  status := 500
  headers := Table.ofList [("content-type", "application/json")]
  text

theorem verdictAgain?_empty_array :
    (failed "[]").verdictAgain? pingTree "" "s" "ping" ["id"] = some (.ok ()) := by
  have hsome : ((failed "[]").verdictAgain? pingTree "" "s" "ping" ["id"]).isSome = true := by
    decide +kernel
  obtain ⟨result, hresult⟩ := Option.isSome_iff_exists.mp hsome
  have hpaths : ReadAsPaths ["id"] [⟨"id", [], .key "id"⟩] := .cons rfl .nil
  have hjson : (failed "[]").json = .ok (.arr []) := rfl
  have hreply : (failed "[]").Reprints := by
    intro body hdocument
    cases hjson.symm.trans hdocument.json
    exact hjson
  have hgood := (verdictAgain?_good_iff hpaths (by decide) (by decide) hreply hresult).1.mpr
    (.inr (.inr ⟨_, hjson⟩))
  exact hresult.trans (congrArg some hgood)

theorem exists_error_of_any {second : Option (Except Failure Unit)}
    (h : second.any (·.toOption.isNone) = true) : ∃ e, second = some (.error e) := by
  cases second with
  | none => cases h
  | some result =>
      cases result with
      | ok done => cases h
      | error e => exact ⟨e, rfl⟩

/-- Three replies that fail the scenario that they healed: one that is said to be JSON and
is not, one whose text is taken for a reference to a file, and one with a float that is
not read back as itself. -/
theorem verdictAgain?_failures :
    (∀ entry ∈ (failed "oops").headers.entries, Text.lower entry.1 = entry.1) ∧
      (∃ e, (failed "oops").verdictAgain? pingTree "" "s" "ping" [] = some (.error e)) ∧
      (∃ e, ({ status := 500, text := "file::s" } : Reply).verdictAgain? pingTree "" "s"
        "ping" [] = some (.error e)) ∧
      ∃ e, (failed "[0.9210310516948414]").verdictAgain? pingTree "" "s" "ping" [] =
        some (.error e) := by
  refine ⟨by decide, exists_error_of_any ?_, exists_error_of_any ?_, exists_error_of_any ?_⟩
  · decide +kernel
  · decide +kernel
  · decide +kernel

end Reply

end HttpScenario
