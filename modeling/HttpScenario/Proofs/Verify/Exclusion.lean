import HttpScenario.Proofs.Json.Independence
import HttpScenario.Proofs.Verify.Verdict

namespace HttpScenario

/-! Members that are left out of the bodies do not decide the verdict, as far as what is
left of a body is read back as equal. -/

theorem MismatchKind.eq_of_first {passes : MismatchKind → Prop} {first second : MismatchKind}
    (hfirst : ¬ passes first) (hbefore : ∀ kind ∈ first.earlier, passes kind)
    (hsecond : ¬ passes second) (hbefore' : ∀ kind ∈ second.earlier, passes kind) :
    first = second := by
  cases first <;> cases second <;> simp_all [earlier]

/-- Two verdicts that are both good, or both tell a mismatch of the same part. -/
inductive Verdict.Alike (one other : Verdict) : Prop where
  | good (hone : one.result = .ok ()) (hother : other.result = .ok ())
  | mismatched {first second : Mismatch} (hone : one.result = .error (.mismatch first))
      (hother : other.result = .error (.mismatch second)) (hkind : first.kind = second.kind)

theorem Verdict.Alike.good_iff {one other : Verdict} (h : one.Alike other) :
    one.result = .ok () ↔ other.result = .ok () := by
  cases h with
  | good hone hother => exact iff_of_true hone hother
  | mismatched hone hother =>
      rw [hone, hother]
      exact iff_of_false nofun nofun

def Json.ReadsAlike (v : Json) : Prop := ∃ w, parse v.compact = .ok w ∧ v.same w = true

def Json.ReadAs (text : String) (v : Json) : Prop := ∃ w, parse text = .ok w ∧ v.same w = true

namespace Redaction

variable {paths : List Path} {text text' : String} {v v' w : Json}

theorem exists_parse_textWithout (hparse : Json.parse text = .ok v)
    (h : (v.withoutAll paths).same v = true ∨ (v.withoutAll paths).ReadsAlike) :
    ∃ w, Json.parse (textWithout paths text) = .ok w ∧ (v.withoutAll paths).same w = true := by
  by_cases hsame : (v.withoutAll paths).same v = true
  · rw [textWithout_of_same hparse hsame]
    exact ⟨v, hparse, hsame⟩
  · rw [textWithout_of_not_same hparse hsame]
    exact h.resolve_left hsame

theorem readAs_textWithout_iff (hparse : Json.parse text = .ok v)
    (hparse' : Json.parse text' = .ok v') (hleft : v'.withoutAll paths = v.withoutAll paths)
    (h : (v.withoutAll paths).ReadsAlike ∨
      (v.withoutAll paths).same v = (v.withoutAll paths).same v') (w : Json) :
    Json.ReadAs (textWithout paths text) w ↔ Json.ReadAs (textWithout paths text') w := by
  by_cases hrewritten : ¬ (v.withoutAll paths).same v = true ∧
      ¬ (v.withoutAll paths).same v' = true
  · rw [textWithout_of_not_same hparse hrewritten.1,
      textWithout_of_not_same hparse' (by rw [hleft]; exact hrewritten.2), hleft]
  · have hboth : ((v.withoutAll paths).same v = true ∨ (v.withoutAll paths).ReadsAlike) ∧
        ((v'.withoutAll paths).same v' = true ∨ (v'.withoutAll paths).ReadsAlike) := by
      rw [hleft]
      rcases h with hback | hsame
      · exact ⟨.inr hback, .inr hback⟩
      · rw [hsame] at hrewritten ⊢
        simp only [and_self, not_not] at hrewritten
        exact ⟨.inl hrewritten, .inl hrewritten⟩
    obtain ⟨u, hu, hsame⟩ := exists_parse_textWithout hparse hboth.1
    obtain ⟨u', hu', hsame'⟩ := exists_parse_textWithout hparse' hboth.2
    rw [hleft] at hsame'
    have hform : (v.withoutAll paths).WellFormed := withoutAll_wellFormed hparse
    have huform := Json.wellFormed_of_parse hu
    have huform' := Json.wellFormed_of_parse hu'
    constructor
    · rintro ⟨x, hx, hwx⟩
      cases hu.symm.trans hx
      exact ⟨u', hu', Json.same_trans (Json.same_trans hwx (Json.same_symm hform huform hsame))
        hsame'⟩
    · rintro ⟨x, hx, hwx⟩
      cases hu'.symm.trans hx
      exact ⟨u, hu, Json.same_trans (Json.same_trans hwx (Json.same_symm hform huform' hsame'))
        hsame⟩

end Redaction

namespace Outcome

def withText (outcome : Outcome) (text : String) : Outcome :=
  { outcome with reply := { outcome.reply with text } }

theorem checkBody_withText {outcome : Outcome} (hjson : outcome.reply.isJson = true)
    (text : String) :
    Comparison.checkBody (outcome.withText text) = .ok () ↔
      ∀ expected, outcome.testCase.expectedBody = some expected → expected ≠ "" →
        ∃ v, Json.parse expected = .ok v ∧ Json.ReadAs text v := by
  rw [Comparison.checkBody_ok_iff]
  refine forall_congr' fun expected => imp_congr_right fun _ => imp_congr_right fun _ => ?_
  have hjson' : (outcome.withText text).reply.isJson = true := hjson
  rw [if_pos hjson']
  constructor
  · rintro ⟨v, w, hv, hw, hsame⟩
    exact ⟨v, hv, w, hw, hsame⟩
  · rintro ⟨v, hv, w, hw, hsame⟩
    exact ⟨v, w, hv, hw, hsame⟩

theorem passes_withText_iff {outcome : Outcome} (hjson : outcome.reply.isJson = true)
    {text text' : String} (h : ∀ v, Json.ReadAs text v ↔ Json.ReadAs text' v)
    (kind : MismatchKind) :
    Comparison.Passes Comparison.checkBody (outcome.withText text) kind ↔
      Comparison.Passes Comparison.checkBody (outcome.withText text') kind := by
  cases kind with
  | status => rfl
  | body =>
      refine (checkBody_withText hjson text).trans
        (Iff.trans ?_ (checkBody_withText hjson text').symm)
      simp only [h]
  | headers => rfl

theorem verify_alike {settings : VerifierSettings} {files : Files}
    {outcome other compared compared' : Outcome} {options : VerifyOptions}
    (hredact : outcome.redact options.excludedPaths = .ok compared)
    (hredact' : other.redact options.excludedPaths = .ok compared')
    (hpasses : ∀ kind, Comparison.Passes options.bodyCheck compared kind ↔
      Comparison.Passes options.bodyCheck compared' kind) :
    (outcome.verify settings files options).Alike (other.verify settings files options) := by
  by_cases hall : ∀ kind, Comparison.Passes options.bodyCheck compared kind
  · exact .good ((verify_ok_iff hredact).mpr hall)
      ((verify_ok_iff hredact').mpr fun kind => (hpasses kind).mp (hall kind))
  · obtain ⟨kind, hkind⟩ := not_forall.mp hall
    obtain ⟨first, hone, -, hfirst, hbefore⟩ := verify_first_failure hredact ⟨kind, hkind⟩
    obtain ⟨second, hother, -, hsecond, hbefore'⟩ :=
      verify_first_failure hredact' ⟨kind, fun hpass => hkind ((hpasses kind).mpr hpass)⟩
    refine .mismatched hone hother (MismatchKind.eq_of_first hfirst hbefore ?_ ?_)
    · exact fun hpass => hsecond ((hpasses second.kind).mp hpass)
    · exact fun earlier hearlier => (hpasses earlier).mpr (hbefore' earlier hearlier)

def expecting (body : String) : Outcome where
  reply := { status := 200, headers := Table.ofList [("content-type", "application/json")] }
  testCase :=
    { name := "order", url := "/orders", method := "get", allowRedirects := true,
      headers := ∅, cookies := ∅, requestBody := none, expectedStatus := 200,
      expectedBody := some body, expectedHeaders := none, filePath := "orders.json",
      description := none }

theorem isJson_expecting (body : String) : (expecting body).reply.isJson = true :=
  show (expecting "").reply.isJson = true by decide +kernel

section Excluded

variable {texts : List String} {paths : List Path} {text text' : String} {v v' : Json}

theorem redact_withText (hpaths : ReadAsPaths texts paths) (outcome : Outcome) (text : String) :
    (outcome.withText text).redact texts =
      .ok ((outcome.without paths).withText (Redaction.textWithout paths text)) :=
  redact_eq hpaths _

theorem readAs_of_alike_expecting (hpaths : ReadAsPaths texts paths)
    (hparse : Json.parse text = .ok v) (hkept : (v.withoutAll paths).same v = true)
    {settings : VerifierSettings} {files : Files}
    (h : (((expecting text).withText text).verify settings files
        { excludedPaths := texts }).result = .ok () ↔
      (((expecting text).withText text').verify settings files
        { excludedPaths := texts }).result = .ok ()) :
    Json.ReadAs (Redaction.textWithout paths text') v := by
  have hform := Json.wellFormed_of_parse hparse
  have hne : text ≠ "" := by
    rintro rfl
    cases hparse
  have hbody : ((expecting text).without paths).testCase.expectedBody = some text := by
    rw [expectedBody_without rfl, Redaction.textWithout_of_same hparse hkept]
  have hchecked : ∀ text', Comparison.checkBody (((expecting text).without paths).withText text') =
      .ok () ↔ _ := checkBody_withText (isJson_expecting text)
  have hredact : ∀ text', ((expecting text).withText text').redact
      ({ excludedPaths := texts } : VerifyOptions).excludedPaths =
        .ok (((expecting text).without paths).withText (Redaction.textWithout paths text')) :=
    redact_withText hpaths (expecting text)
  have hself : ∀ kind, Comparison.Passes Comparison.checkBody
      (((expecting text).without paths).withText (Redaction.textWithout paths text)) kind := by
    intro kind
    cases kind with
    | status => rfl
    | headers => exact nofun
    | body =>
        refine (hchecked _).mpr ?_
        intro expected hexpected _
        cases hbody.symm.trans hexpected
        refine ⟨v, hparse, v, ?_, Json.same_refl hform⟩
        rw [Redaction.textWithout_of_same hparse hkept]
        exact hparse
  have hother := (verify_ok_iff (hredact text')).mp
    (h.mp ((verify_ok_iff (hredact text)).mpr hself))
  obtain ⟨w, hw, hread⟩ := (hchecked _).mp (hother .body) text hbody hne
  cases hparse.symm.trans hw
  exact hread

/-- What is set at a member that is left out does not show in any verdict, exactly if what
is left is read back as equal, or if both texts or neither of them held anything that is
left out. -/
theorem verify_excluded (hpaths : ReadAsPaths texts paths)
    (hkeys : ∀ path ∈ paths, path.target.EndsInKey) {path : Path} (hpath : path ∈ paths)
    {x : Json} (hparse : Json.parse text = .ok v) (hparse' : Json.parse text' = .ok v')
    (hupdate : v.update path x .skip = .ok v') :
    (∀ (settings : VerifierSettings) (files : Files) (outcome : Outcome),
        outcome.reply.isJson = true →
          ((outcome.withText text).verify settings files { excludedPaths := texts }).Alike
            ((outcome.withText text').verify settings files { excludedPaths := texts })) ↔
      (v.withoutAll paths).ReadsAlike ∨
        (v.withoutAll paths).same v = (v.withoutAll paths).same v' := by
  have hleft : v'.withoutAll paths = v.withoutAll paths := by
    cases (Json.update_skip v path x).symm.trans hupdate
    exact Json.withoutAll_assign hkeys hpath v x
  constructor
  · intro halike
    by_contra hcond
    obtain ⟨hback, hdiffer⟩ := not_or.mp hcond
    have hgood : ∀ body, _ := fun body =>
      (halike {} (.empty []) (expecting body) (isJson_expecting body)).good_iff
    -- One text was kept and the other one written anew; the kept one tells them apart.
    cases hkept : (v.withoutAll paths).same v with
    | true =>
        have hrewritten : ¬ (v'.withoutAll paths).same v' = true := by
          rw [hleft]
          exact fun hkept' => hdiffer (hkept.trans hkept'.symm)
        obtain ⟨w, hw, hsame⟩ := readAs_of_alike_expecting hpaths hparse hkept (hgood text)
        rw [Redaction.textWithout_of_not_same hparse' hrewritten, hleft] at hw
        exact hback ⟨w, hw, Json.same_trans hkept hsame⟩
    | false =>
        have hkept' : (v'.withoutAll paths).same v' = true := by
          rw [hleft]
          cases hother : (v.withoutAll paths).same v' with
          | true => rfl
          | false => exact absurd (hkept.trans hother.symm) hdiffer
        obtain ⟨w, hw, hsame⟩ :=
          readAs_of_alike_expecting hpaths hparse' hkept' (hgood text').symm
        rw [Redaction.textWithout_of_not_same hparse (by simp [hkept])] at hw
        rw [hleft] at hkept'
        exact hback ⟨w, hw, Json.same_trans hkept' hsame⟩
  · intro hcond settings files outcome hjson
    have hleftJson : (outcome.without paths).reply.isJson = true :=
      (isJson_without outcome paths).trans hjson
    exact verify_alike (redact_withText hpaths outcome text)
      (redact_withText hpaths outcome text')
      (passes_withText_iff hleftJson
        (Redaction.readAs_textWithout_iff hparse hparse' hleft hcond))

end Excluded

end Outcome

namespace Json

instance (v : Json) : Decidable v.ReadsAlike :=
  decidable_of_iff ((parse v.compact).toOption.any v.same = true) <| by
    rw [ReadsAlike]
    cases parse v.compact <;> simp [Except.toOption]

def ofNumbers (numbers : Members Number) : Json :=
  .obj (numbers.map fun member => (member.1, .num member.2))

def numbers? : Json → Option (Members Number)
  | .obj members => members.foldr (fun member numbers? =>
      match member with
      | (name, .num n) => numbers?.map ((name, n) :: ·)
      | _ => none) (some [])
  | _ => none

theorem eq_ofNumbers {v : Json} {numbers : Members Number} (h : v.numbers? = some numbers) :
    v = ofNumbers numbers := by
  cases v with
  | obj members =>
      refine congrArg obj ?_
      induction members generalizing numbers with
      | nil => cases h; rfl
      | cons member rest ih =>
          rw [numbers?, List.foldr_cons] at h
          split at h
          · obtain ⟨others, hothers, rfl⟩ := Option.map_eq_some_iff.mp h
            rw [ih hothers, List.map_cons]
          · cases h
  | _ => cases h

theorem parse_eq_ofNumbers {text : String} {numbers : Members Number}
    (h : (parse text).toOption.bind numbers? = some numbers) :
    parse text = .ok (ofNumbers numbers) := by
  obtain ⟨v, hv, hnumbers⟩ := Option.bind_eq_some_iff.mp h
  rw [← eq_ofNumbers hnumbers]
  exact toOption_eq_some.mp hv

/-- A price that is not read back as itself. -/
def unsteadyPrice : Number := .float ⟨false, 4606471129747695504, by decide⟩

end Json

namespace Outcome

theorem verify_priced_item :
    (¬ ∀ (settings : VerifierSettings) (files : Files) (outcome : Outcome),
        outcome.reply.isJson = true →
          ((outcome.withText "\x7b\"price\":0.9210310516948414\x7d").verify settings files
              { excludedPaths := ["id"] }).Alike
            ((outcome.withText "\x7b\"price\":0.9210310516948414,\"id\":7\x7d").verify
              settings files { excludedPaths := ["id"] })) ∧
      ∀ (settings : VerifierSettings) (files : Files) (outcome : Outcome),
        outcome.reply.isJson = true →
          ((outcome.withText "\x7b\"price\":3\x7d").verify settings files
              { excludedPaths := ["id"] }).Alike
            ((outcome.withText "\x7b\"price\":3,\"id\":7\x7d").verify
              settings files { excludedPaths := ["id"] }) := by
  have hpaths : ReadAsPaths ["id"] [⟨"id", [], .key "id"⟩] := .cons rfl .nil
  have hkeys : ∀ path ∈ [(⟨"id", [], .key "id"⟩ : Path)], path.target.EndsInKey :=
    List.forall_mem_singleton.mpr ⟨"id", rfl⟩
  have hid : ∀ price, (Json.ofNumbers [("price", price)]).update ⟨"id", [], .key "id"⟩
      (.ofNat 7) .skip = .ok (Json.ofNumbers [("price", price), ("id", .int 7)]) := fun _ => rfl
  constructor
  · rw [verify_excluded hpaths hkeys (List.mem_singleton_self _)
      (Json.parse_eq_ofNumbers (by decide +kernel)) (Json.parse_eq_ofNumbers (by decide +kernel))
      (hid Json.unsteadyPrice)]
    decide +kernel
  · refine (verify_excluded hpaths hkeys (List.mem_singleton_self _)
      (Json.parse_eq_ofNumbers (by decide +kernel)) (Json.parse_eq_ofNumbers (by decide +kernel))
      (hid (.int 3))).mpr ?_
    decide +kernel

end Outcome

end HttpScenario
