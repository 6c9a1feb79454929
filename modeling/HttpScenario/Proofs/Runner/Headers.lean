import HttpScenario.Proofs.Runner.Sending
import HttpScenario.Proofs.Runner.UrlPieces
import HttpScenario.Proofs.Scenario.HeaderEdits

namespace HttpScenario

/-- The headers that the members of an object stand for, one for each of their names in small
letters. A content type may be added to them. -/
structure ShowsMembers (members : Members Json) (contentType : Option String)
    (headers : Table String) : Prop where
  scalar : ∀ member ∈ members, member.2.isContainer = false
  small : ∀ name, headers.contains name → ∀ c ∈ name.toList, c.isUpper = false
  contains_iff : ∀ name, headers.contains name ↔
    (∃ member ∈ members, Text.lower member.1 = name) ∨
      name = "content-type" ∧ contentType.isSome
  last_wins : ∀ {before member after}, members = before ++ member :: after →
    (∀ other ∈ after, Text.lower other.1 ≠ Text.lower member.1) →
    headers.find? (Text.lower member.1) = some member.2.plainText
  content_type : (∀ member ∈ members, Text.lower member.1 ≠ "content-type") →
    headers.find? "content-type" = contentType

section TextMap

variable {lowerKeys : Bool} {name field : String} {texts result headers : Table String}
  {members : Members Json}

theorem scalar_of_addTexts (h : addTexts lowerKeys field texts members = .ok result) :
    ∀ member ∈ members, member.2.isContainer = false := by
  induction members generalizing texts with
  | nil => exact List.forall_mem_nil _
  | cons member members ih =>
      rw [addTexts] at h
      split at h
      · cases h
      · next hscalar => exact List.forall_mem_cons.mpr ⟨by simpa using hscalar, ih h⟩

theorem scalar_of_textMap (h : textMap name field lowerKeys members = .ok result) :
    ∀ member ∈ members, member.2.isContainer = false :=
  scalar_of_addTexts (mapError_eq_ok.mp h)

theorem textMap_contains_iff (h : textMap name field true members = .ok headers) (key : String) :
    headers.contains key ↔ ∃ member ∈ members, Text.lower member.1 = key := by
  rw [Table.contains, textMap_find? h, Option.isSome_map, List.getLast?_isSome]
  simp [List.filter_eq_nil_iff]

theorem filter_lower_eq_nil {key : String}
    (h : ∀ member ∈ members, Text.lower member.1 ≠ key) :
    members.filter (fun member => Text.lower member.1 = key) = [] := by
  apply List.filter_eq_nil_iff.mpr
  intro member hmember
  simpa using h member hmember

theorem showsMembers_of_textMap (h : textMap name field true members = .ok headers) :
    ShowsMembers members none headers := by
  refine ⟨scalar_of_textMap h, ?_, ?_, ?_, ?_⟩
  · intro key hkey c hc
    obtain ⟨member, -, rfl⟩ := (textMap_contains_iff h key).mp hkey
    exact Text.isUpper_of_mem_lower hc
  · intro key
    rw [textMap_contains_iff h]
    simp
  · intro before member after hmembers hlast
    rw [textMap_find? h, hmembers, List.filter_append, List.filter_cons_of_pos (by simp),
      filter_lower_eq_nil hlast]
    simp
  · intro hother
    rw [textMap_find? h, filter_lower_eq_nil hother]
    rfl

end TextMap

theorem ShowsMembers.insertNew {members : Members Json} {headers : Table String}
    (h : ShowsMembers members none headers) (contentType : String) :
    ShowsMembers members (some contentType) (headers.insertNew "content-type" contentType) := by
  have hcontains : ∀ name, (headers.insertNew "content-type" contentType).contains name ↔
      headers.contains name ∨ name = "content-type" := by
    intro name
    rw [Table.contains, Table.contains, Table.find?_insertNew]
    split <;> simp [*]
  refine ⟨h.scalar, ?_, ?_, ?_, ?_⟩
  · intro name hname c hc
    rcases (hcontains name).mp hname with hname | rfl
    · exact h.small name hname c hc
    · have hsmall : "content-type".toList.all (fun c => !c.isUpper) = true := rfl
      simpa using List.all_eq_true.mp hsmall c hc
  · intro name
    rw [hcontains, h.contains_iff]
    simp
  · intro before member after hmembers hlast
    rw [Table.find?_insertNew, h.last_wins hmembers hlast, Option.some_or]
  · intro hother
    rw [Table.find?_insertNew, h.content_type hother, Option.none_or, if_pos rfl]

theorem Runner.addContentType_headers {settings : RunnerSettings} {members : Members Json}
    {testCase : TestCase} (h : ShowsMembers members none testCase.headers) :
    ShowsMembers members settings.defaultContentType
      (addContentType settings testCase).headers := by
  rw [addContentType]
  cases settings.defaultContentType with
  | none => exact h
  | some contentType => exact h.insertNew contentType

namespace Loaded

variable {files : Files} {directory file name : String} {edits : Edits} {loaded : Loaded}
  {testCase : TestCase}

/-- The headers of a test case, and those that it expects, are what a scenario shows once they
were edited. -/
structure HeadersIn (loaded : Loaded) (edits : Edits) (contentType : Option String)
    (testCase : TestCase) : Prop where
  headers : ∃ members, Edits.editObject loaded.name .headers edits.requestHeaders
      (loaded.record.headers.getD []) = .ok members ∧
    ShowsMembers members contentType testCase.headers
  expected_headers : ∃ expected, ExpectsHeaders loaded.name loaded.record.responseHeaders
      edits.responseHeaders expected ∧
    Option.Rel (ShowsMembers · none ·) expected testCase.expectedHeaders

/-- The headers, the expected headers or the cookies of a scenario hold an array or an object
once they were edited. -/
def Nested (loaded : Loaded) (edits : Edits) : Prop :=
  (∃ members, Edits.editObject loaded.name .headers edits.requestHeaders
      (loaded.record.headers.getD []) = .ok members ∧
    ∃ member ∈ members, member.2.isContainer = true) ∨
  (∃ members, ExpectsHeaders loaded.name loaded.record.responseHeaders edits.responseHeaders
      (some members) ∧
    ∃ member ∈ members, member.2.isContainer = true) ∨
  ∃ members, loaded.record.cookies = some members ∧
    ∃ member ∈ members, member.2.isContainer = true

theorem showsMembers_of_texts? {field : MapField} {expected : Option (Members Json)}
    {shown : Option (Table String)} (h : texts? name field true expected = .ok shown) :
    Option.Rel (ShowsMembers · none ·) expected shown := by
  cases expected with
  | none =>
      cases h
      exact .none
  | some members =>
      obtain ⟨headers, hheaders, rfl⟩ := map_eq_ok.mp h
      exact .some (showsMembers_of_textMap hheaders)

theorem headersIn_of_toTestCase (h : loaded.toTestCase edits = .ok testCase) :
    loaded.HeadersIn edits none testCase := by
  obtain ⟨⟨members, hmembers, hheaders⟩, expected, hexpected, htexts⟩ := headers_of_toTestCase h
  exact ⟨⟨members, hmembers, showsMembers_of_textMap hheaders⟩, expected, hexpected,
    showsMembers_of_texts? htexts⟩

theorem cookies_of_toTestCase (h : loaded.toTestCase edits = .ok testCase)
    {members : Members Json} (hmembers : loaded.record.cookies = some members) :
    ∀ member ∈ members, member.2.isContainer = false := by
  simp only [toTestCase, bind_eq_ok] at h
  obtain ⟨_, -, _, -, _, -, _, -, _, -, _, -, cookies, hcookies, -⟩ := h
  rw [hmembers] at hcookies
  obtain ⟨texts, htexts, -⟩ := map_eq_ok.mp hcookies
  exact scalar_of_textMap htexts

theorem not_nested_of_toTestCase (h : loaded.toTestCase edits = .ok testCase) :
    ¬ loaded.Nested edits := by
  have hscalar : ∀ {members : Members Json}, (∀ member ∈ members, member.2.isContainer = false) →
      ¬ ∃ member ∈ members, member.2.isContainer = true := by
    intro members hall ⟨member, hmember, hcontainer⟩
    rw [hall member hmember] at hcontainer
    cases hcontainer
  obtain ⟨⟨members, hmembers, hheaders⟩, expected, hexpected, hshown⟩ := headersIn_of_toTestCase h
  rintro (⟨members', hmembers', hnested⟩ | ⟨members', hmembers', hnested⟩ |
    ⟨members', hmembers', hnested⟩)
  · cases hmembers.symm.trans hmembers'
    exact hscalar hheaders.scalar hnested
  · rw [← expectedHeaders_eq_ok_iff] at hexpected hmembers'
    cases hexpected.symm.trans hmembers'
    generalize testCase.expectedHeaders = shown at hshown
    cases hshown with
    | some hshown => exact hscalar hshown.scalar hnested
  · exact hscalar (cookies_of_toTestCase h hmembers') hnested

end Loaded

theorem TestCase.headersIn_of_load {format : Format} {files : Files}
    {directory file name : String} {edits : Edits} {testCase : TestCase}
    (h : load format files directory file name edits = .ok testCase) :
    ∃ loaded, Loaded.load files directory file name = .ok loaded ∧
      loaded.HeadersIn edits none testCase ∧ ¬ loaded.Nested edits := by
  obtain ⟨loaded, hloaded, htestCase⟩ := bind_eq_ok.mp h
  refine ⟨loaded, hloaded, ?_⟩
  cases format with
  | plain =>
      exact ⟨Loaded.headersIn_of_toTestCase htestCase, Loaded.not_nested_of_toTestCase htestCase⟩
  | template =>
      have hfilled : (loaded.fill edits).toTestCase edits = .ok testCase := htestCase
      have hnested : ¬ (loaded.fill edits).Nested edits := Loaded.not_nested_of_toTestCase hfilled
      obtain ⟨hheaders, hexpected⟩ := Loaded.headersIn_of_toTestCase hfilled
      exact ⟨⟨hheaders, hexpected⟩, hnested⟩

namespace Runner

variable {runner : Runner} {files : Files} {file name : String} {options : RunOptions}

/-- A runner that loads scenarios by their format prepares the headers that a scenario shows,
with its content type where the scenario has none, and prepares no scenario with an array or an
object among its headers or cookies. -/
theorem prepare_headers (hparser : runner.parser = TestCase.load runner.format) :
    (∀ testCase, options.caseEdits = [] →
      runner.prepare files file name options = .ok testCase →
      ∃ loaded,
        Loaded.load files runner.settings.scenariosDirectory file name = .ok loaded ∧
          loaded.HeadersIn options.edits runner.settings.defaultContentType testCase) ∧
    ∀ loaded, Loaded.load files runner.settings.scenariosDirectory file name = .ok loaded →
      loaded.Nested options.edits →
      ∀ testCase, runner.prepare files file name options ≠ .ok testCase := by
  have hload : ∀ {testCase}, runner.prepare files file name options = .ok testCase →
      ∃ parsed ready, TestCase.load runner.format files runner.settings.scenariosDirectory file
          name options.edits = .ok parsed ∧
        fillUrl options.urlParameters (addContentType runner.settings parsed) = ready ∧
        TestCase.EditedBy options.caseEdits ready testCase := by
    intro testCase h
    obtain ⟨parsed, ready, hparsed, hready, hedited⟩ := prepare_eq_ok_iff.mp h
    exact ⟨parsed, ready, hparser ▸ hparsed, completes_iff.mp hready, hedited⟩
  constructor
  · intro testCase hedits h
    obtain ⟨parsed, ready, hparsed, rfl, hedited⟩ := hload h
    obtain ⟨loaded, hloaded, ⟨⟨members, hmembers, hheaders⟩, hexpected⟩, -⟩ :=
      TestCase.headersIn_of_load hparsed
    rw [hedits, fillUrl_eq] at hedited
    cases hedited
    refine ⟨loaded, hloaded, ⟨members, hmembers, addContentType_headers hheaders⟩, ?_⟩
    rw [addContentType]
    split
    · exact hexpected
    · exact hexpected
  · intro loaded hloaded hnested testCase h
    obtain ⟨parsed, -, hparsed, -⟩ := hload h
    obtain ⟨loaded', hloaded', -, hscalar⟩ := TestCase.headersIn_of_load hparsed
    cases hloaded.symm.trans hloaded'
    exact hscalar hnested

def orderRunner : Runner where
  settings := { scenariosDirectory := "", defaultContentType := some "text/plain" }

def orderEdits : Edits where
  requestHeaders := [("X-TRACE", .num (.int 5))]
  responseHeaders := [("X-A", .str "1"), ("x-a", .str "2")]

def preparedOrder : TestCase :=
  { TestCase.spelledOrder "5" (some (Table.ofList [("x-a", "2")])) with
    headers := Table.ofList [("content-type", "text/plain"), ("x-trace", "5")] }

theorem prepare_preparedOrder : orderRunner.prepare ScenarioFile.spelledTree "orders.json" "order"
    { edits := orderEdits } = .ok preparedOrder :=
  bind_eq_ok.mpr ⟨_, bind_eq_ok.mpr ⟨_, Loaded.load_spelledOrder, rfl⟩, rfl⟩

theorem isKey_orderEdits : (∀ edit ∈ orderEdits.requestHeaders, Path.IsKey edit.1) ∧
    ∀ edit ∈ orderEdits.responseHeaders, Path.IsKey edit.1 := by
  simp only [orderEdits, List.forall_mem_cons, Path.isKey_iff]
  exact ⟨⟨by decide, List.forall_mem_nil _⟩, by decide, by decide, List.forall_mem_nil _⟩

theorem prepare_headers_spelled :
    orderRunner.prepare ScenarioFile.spelledTree "orders.json" "order"
        { edits := orderEdits } = .ok preparedOrder ∧
      preparedOrder.headers.find? "x-trace" = some "5" ∧
      preparedOrder.headers.find? "content-type" = some "text/plain" ∧
      (∃ expected, preparedOrder.expectedHeaders = some expected ∧
        expected.find? "x-a" = some "2" ∧ expected.find? "content-type" = none) ∧
      (∀ testCase, orderRunner.prepare ScenarioFile.spelledTree "orders.json" "order"
        { edits := { requestHeaders := [("X-Empty", .arr [])] } } ≠ .ok testCase) ∧
      ∀ testCase, orderRunner.prepare ScenarioFile.spelledTree "orders.json" "order"
        { edits := { responseHeaders := [("X-Empty", .arr [])] } } ≠ .ok testCase := by
  have hparser : orderRunner.parser = TestCase.load orderRunner.format := rfl
  have hempty : ∀ edit ∈ [("X-Empty", Json.arr [])], Path.IsKey edit.1 := by
    simp only [List.forall_mem_cons, Path.isKey_iff]
    exact ⟨by decide, List.forall_mem_nil _⟩
  have hlast : ∀ first last : String × Json, [first, last] = [first] ++ (last.1, last.2) :: [] :=
    fun _ _ => rfl
  obtain ⟨loaded, hloaded, ⟨members, hmembers, hshown⟩, expected, hexpected, hexpects⟩ :=
    (prepare_headers hparser).1 _ rfl prepare_preparedOrder
  cases Loaded.load_spelledOrder.symm.trans hloaded
  cases hmembers.symm.trans (Edits.editObject_of_keys isKey_orderEdits.1 _ _ _)
  refine ⟨prepare_preparedOrder, ?_, hshown.content_type (by decide), ?_, ?_, ?_⟩
  · have hsplit : [("X-Trace", Json.str "a"), ("x-trace", .str "b"), ("X-TRACE", .num (.int 5))] =
        [("X-Trace", .str "a"), ("x-trace", .str "b")] ++ ("X-TRACE", .num (.int 5)) :: [] := rfl
    exact hshown.last_wins hsplit (List.forall_mem_nil _)
  · cases hexpected with
    | nothing _ hnone => cases hnone
    | edited _ hmembers =>
        cases hmembers.symm.trans (Edits.editObject_of_keys isKey_orderEdits.2 _ _ _)
        cases hexpects with
        | some hexpects =>
            exact ⟨_, rfl, hexpects.last_wins (hlast _ _) (List.forall_mem_nil _),
              hexpects.content_type (by decide)⟩
  · have hmember : ("X-Empty", Json.arr []) ∈ [("X-Trace", Json.str "a"), ("x-trace", .str "b"),
        ("X-Empty", .arr [])] := by simp
    exact (prepare_headers hparser).2 _ Loaded.load_spelledOrder
      (.inl ⟨_, Edits.editObject_of_keys hempty _ _ _, _, hmember, rfl⟩)
  · exact (prepare_headers hparser).2 _ Loaded.load_spelledOrder
      (.inr (.inl ⟨_, .edited (.inr nofun) (Edits.editObject_of_keys hempty _ _ _), _,
        List.mem_cons_self, rfl⟩))

end Runner

end HttpScenario
