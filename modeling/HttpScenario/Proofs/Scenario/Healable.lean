import HttpScenario.Proofs.Scenario.Reload
import HttpScenario.Proofs.Scenario.Rewrite
import HttpScenario.Proofs.Verify.Effects

namespace HttpScenario

/-! A scenario that is loaded can be healed if its record is an object. A record that is an
array of values is loaded as well, and is never healed. -/

theorem Record.object_or_array_of_decode {stored : Json} {record : Record}
    (h : Record.decode stored = .ok record) :
    stored.isObject = true ∨ stored.isArray = true := by
  cases stored with
  | obj members => exact .inl rfl
  | arr items => exact .inr rfl
  | _ => cases h

theorem Loaded.name_of_toTestCase {loaded : Loaded} {edits : Edits} {testCase : TestCase}
    (h : loaded.toTestCase edits = .ok testCase) :
    testCase.name = loaded.name ∧ testCase.filePath = loaded.filePath := by
  simp only [toTestCase, bind_eq_ok] at h
  obtain ⟨_, -, _, -, _, -, _, -, _, -, _, -, _, -, htestCase⟩ := h
  cases htestCase
  exact ⟨rfl, rfl⟩

theorem TestCase.stored_of_load {format : Format} {files : Files} {directory file name : String}
    {edits : Edits} {testCase : TestCase}
    (h : TestCase.load format files directory file name edits = .ok testCase) :
    ∃ records stored record, ScenarioFile.load files testCase.filePath = .ok records ∧
      records.find? testCase.name = some stored ∧ Record.decode stored = .ok record := by
  obtain ⟨loaded, hloaded, htestCase⟩ := bind_eq_ok.mp h
  obtain ⟨hname, hpath, records, stored, hrecords, hfind, hdecode, -⟩ :=
    Loaded.load_eq_ok hloaded
  have hsame : testCase.name = name ∧ testCase.filePath = joinPath directory file := by
    cases format with
    | plain =>
        obtain ⟨hname', hpath'⟩ := Loaded.name_of_toTestCase htestCase
        exact ⟨hname'.trans hname, hpath'.trans hpath⟩
    | template =>
        obtain ⟨hname', hpath'⟩ := Loaded.name_of_toTestCase htestCase
        exact ⟨hname'.trans hname, hpath'.trans hpath⟩
  rw [hsame.1, hsame.2]
  exact ⟨records, stored, loaded.record, hrecords, hfind, hdecode⟩

theorem ScenarioFile.exists_heal_iff {files : Files} {path name : String}
    {records : Members Json} {stored : Json} (hload : load files path = .ok records)
    (hfind : records.find? name = some stored) (reply : Reply) (withHeaders : Bool) :
    (∃ healed, heal files path name reply withHeaders = .ok healed) ↔
      stored.isObject = true := by
  constructor
  · rintro ⟨healed, hheal⟩
    obtain ⟨records', record, hload', hfind', -⟩ := heal_eq_ok.mp hheal
    cases hload.symm.trans hload'
    cases hfind.symm.trans hfind'
    rfl
  · intro hobject
    cases stored with
    | obj record =>
        obtain ⟨written, -, hheal⟩ := exists_heal_of_record hload hfind reply withHeaders
        exact ⟨written, hheal⟩
    | _ => cases hobject

theorem Outcome.healFailure_of_verify {settings : VerifierSettings} {files : Files}
    {outcome : Outcome} {options : VerifyOptions} {mismatch : Mismatch}
    (h : (outcome.verify { settings with heal := true } files options).result =
      .error (.mismatch mismatch)) :
    mismatch.healFailure = none ↔ ∃ healed, outcome.heal files settings.healHeaders = .ok healed := by
  rcases outcome.verify_quiet_or_healed settings files options with ⟨hsame, hquiet⟩ | hhealed
  · rw [← hsame] at hquiet
    exact absurd ⟨mismatch, h⟩ hquiet.not_mismatched
  · generalize outcome.verify { settings with heal := true } files options = on at h hhealed
    generalize outcome.verify { settings with heal := false } files options = off at hhealed
    cases hhealed with
    | healed hfresh hheal =>
        cases h
        exact iff_of_true hfresh ⟨_, hheal⟩
    | failed hfresh hheal =>
        cases h
        refine iff_of_false nofun ?_
        rintro ⟨healed, hhealed⟩
        cases hheal.symm.trans hhealed

/-- A test case that was loaded, with edits or without, is healed by any reply if its record
is an object, and then no mismatch tells of a failed healing. An array of the values of a
record is loaded all the same, but there is no record to heal in it, and every mismatch tells
so. -/
theorem TestCase.heal_of_load {format : Format} {files : Files} {directory file name : String}
    {edits : Edits} {testCase : TestCase}
    (h : TestCase.load format files directory file name edits = .ok testCase) (reply : Reply)
    (withHeaders : Bool) :
    ∃ records stored, ScenarioFile.load files testCase.filePath = .ok records ∧
      records.find? testCase.name = some stored ∧
      (stored.isObject = true ∨ stored.isArray = true) ∧
      ((∃ healed, (⟨reply, testCase⟩ : Outcome).heal files withHeaders = .ok healed) ↔
        stored.isObject = true) ∧
      (stored.isArray = true → (⟨reply, testCase⟩ : Outcome).heal files withHeaders =
        .error ⟨testCase.filePath, .noRecord testCase.name⟩) ∧
      ∀ options mismatch,
        ((⟨reply, testCase⟩ : Outcome).verify ⟨true, withHeaders⟩ files options).result =
            .error (.mismatch mismatch) →
          (mismatch.healFailure = none ↔ stored.isObject = true) := by
  obtain ⟨records, stored, record, hload, hfind, hdecode⟩ := stored_of_load h
  have hheal : (∃ healed, (⟨reply, testCase⟩ : Outcome).heal files withHeaders = .ok healed) ↔
      stored.isObject = true := by
    simp only [Outcome.heal_eq_ok]
    exact ScenarioFile.exists_heal_iff hload hfind reply withHeaders
  refine ⟨records, stored, hload, hfind, Record.object_or_array_of_decode hdecode, hheal, ?_, ?_⟩
  · intro harray
    have hnone : ∀ record, records.find? testCase.name ≠ some (.obj record) := by
      intro record hrecord
      cases hfind.symm.trans hrecord
      cases harray
    exact Outcome.heal_of_fault (ScenarioFile.heal_of_no_record hload hnone reply withHeaders)
  · intro options mismatch hmismatch
    have hon : ((⟨reply, testCase⟩ : Outcome).verify
        { (⟨true, withHeaders⟩ : VerifierSettings) with heal := true } files options).result =
          .error (.mismatch mismatch) := hmismatch
    rw [Outcome.healFailure_of_verify hon]
    exact hheal

namespace ScenarioFile

def listedOrders : Members Json := [("order", .arr [.str "/orders", .str "get", .ofNat 200])]

theorem listedOrders_wellFormed : (Json.obj listedOrders).WellFormed := by
  have hrecord : (Json.arr [.str "/orders", .str "get", .ofNat 200]).WellFormed := by
    refine .arr ?_
    simp only [List.forall_mem_cons]
    exact ⟨.str _, .str _, .num ⟨by decide, by decide⟩, List.forall_mem_nil _⟩
  refine .obj (by simp [Members.Distinct, Members.names, listedOrders]) ?_
  simp only [listedOrders, List.forall_mem_cons]
  exact ⟨hrecord, List.forall_mem_nil _⟩

def listedTree : Files := ⟨[(["orders.json"], .file (text listedOrders).toUTF8)], []⟩

theorem load_listedOrders : load listedTree "orders.json" = .ok listedOrders := by
  have hlocate : listedTree.locate "orders.json" = .ok ["orders.json"] := rfl
  exact (load_of_readText (Files.readText_of_file hlocate rfl) listedOrders_wellFormed).mpr rfl

end ScenarioFile

def Record.order : Record where
  url := "/orders"
  method := "get"
  status := 200

namespace TestCase

def order : TestCase where
  name := "order"
  url := "/orders"
  method := "get"
  allowRedirects := true
  headers := ∅
  cookies := ∅
  requestBody := none
  expectedStatus := 200
  expectedBody := none
  expectedHeaders := none
  filePath := "orders.json"
  description := none

theorem load_order {files : Files} {records : Members Json} {stored : Json}
    (hload : ScenarioFile.load files "orders.json" = .ok records)
    (hfind : records.find? "order" = some stored)
    (hdecode : Record.decode stored = .ok Record.order) :
    TestCase.load .plain files "" "orders.json" "order" {} = .ok order := by
  have hrecord : ScenarioFile.record files "orders.json" "order" = .ok stored :=
    bind_eq_ok.mpr ⟨records, hload, by rw [hfind]⟩
  have hloaded : Loaded.load files "" "orders.json" "order" =
      .ok ⟨"order", "orders.json", Record.order, none, none⟩ :=
    bind_eq_ok.mpr ⟨stored, hrecord,
      bind_eq_ok.mpr ⟨Record.order, mapError_eq_ok.mpr hdecode, rfl⟩⟩
  exact bind_eq_ok.mpr ⟨_, hloaded, rfl⟩

theorem heal_of_load_order :
    (TestCase.load .plain ScenarioFile.ordersTree "" "orders.json" "order" {} = .ok order ∧
        ∃ healed, (⟨⟨500, ∅, "oops"⟩, order⟩ : Outcome).heal ScenarioFile.ordersTree true =
          .ok healed) ∧
      TestCase.load .plain ScenarioFile.listedTree "" "orders.json" "order" {} = .ok order ∧
        (⟨⟨500, ∅, "oops"⟩, order⟩ : Outcome).heal ScenarioFile.listedTree true =
          .error ⟨"orders.json", .noRecord "order"⟩ := by
  have horders := load_order ScenarioFile.load_orders rfl rfl
  have hlisted := load_order ScenarioFile.load_listedOrders rfl rfl
  constructor
  · obtain ⟨records, stored, hload, hfind, -, hheal, -⟩ :=
      heal_of_load horders ⟨500, ∅, "oops"⟩ true
    cases ScenarioFile.load_orders.symm.trans hload
    cases hfind
    exact ⟨horders, hheal.mpr rfl⟩
  · obtain ⟨records, stored, hload, hfind, -, -, hrefused, -⟩ :=
      heal_of_load hlisted ⟨500, ∅, "oops"⟩ true
    cases ScenarioFile.load_listedOrders.symm.trans hload
    cases hfind
    exact ⟨hlisted, hrefused rfl⟩

end TestCase

end HttpScenario
