import HttpScenario.Proofs.Json.PathText
import HttpScenario.Proofs.Scenario.EditOrder
import HttpScenario.Proofs.Scenario.Healable

namespace HttpScenario

/-! Headers that are edited when a scenario is loaded. Edits address members by their exact
name, and only then are names that differ in letter case taken for one header: the spelling
that stands last decides. -/

def Path.IsKey (text : String) : Prop := Writable [] (.key text)

theorem Path.isKey_iff {text : String} :
    IsKey text ↔ text ≠ "" ∧ '.' ∉ text.toList ∧ text.toList.head? ≠ some '[' ∧
      text.toList.head? ≠ some '*' := by
  constructor
  · intro h
    exact ⟨fun hempty => h.ne_empty ⟨rfl, congrArg Target.key hempty⟩, h.last⟩
  · intro ⟨hne, hlast⟩
    exact ⟨List.forall_mem_nil _, hlast, fun ⟨_, hkey⟩ => hne (Target.key.inj hkey)⟩

theorem Path.parse_of_isKey {text : String} (h : IsKey text) :
    parse text = .ok ⟨text, [], .key text⟩ := by
  have hwrite : write [] (.key text) = text := by simp [write, writeTarget]
  have hparse := parse_write h
  rwa [hwrite] at hparse

namespace Edits

variable {edits : List (String × Json)}

theorem applyAll_of_keys (h : ∀ edit ∈ edits, Path.IsKey edit.1) (members : Members Json) :
    applyAll (.obj members) edits =
      .ok (.obj (edits.foldl (fun members edit => Members.put edit.1 edit.2 members) members)) := by
  induction edits generalizing members with
  | nil => rfl
  | cons edit edits ih =>
      obtain ⟨hkey, hrest⟩ := List.forall_mem_cons.mp h
      rw [applyAll_cons_of_parse (Path.parse_of_isKey hkey)]
      exact ih hrest (members.put edit.1 edit.2)

theorem editObject_of_keys (h : ∀ edit ∈ edits, Path.IsKey edit.1) (name : String)
    (field : MapField) (members : Members Json) :
    editObject name field edits members =
      .ok (edits.foldl (fun members edit => Members.put edit.1 edit.2 members) members) := by
  rw [editObject, applyAll_of_keys h]

end Edits

theorem addTexts_eq_ok {field : String} {texts result : Table String} {members : Members Json}
    (h : addTexts true field texts members = .ok result) :
    result = (members.map fun member => (Text.lower member.1, member.2.plainText)).foldl
      (fun texts member => texts.insert member.1 member.2) texts := by
  induction members generalizing texts with
  | nil => exact (Except.ok.inj h).symm
  | cons member members ih =>
      rw [addTexts] at h
      split at h
      · cases h
      · exact ih h

theorem textMap_find? {name field : String} {members : Members Json} {texts : Table String}
    (h : textMap name field true members = .ok texts) (key : String) :
    texts.find? key = (members.filter fun member => Text.lower member.1 = key).getLast?.map
      (·.2.plainText) := by
  rw [textMap, mapError_eq_ok] at h
  have htexts : texts = Table.ofList
      (members.map fun member => (Text.lower member.1, member.2.plainText)) :=
    addTexts_eq_ok h
  rw [htexts, Table.find?_ofList, Members.lastOf?, List.filter_map, List.getLast?_map,
    Option.map_map]
  rfl

/-- The spelling of a header that stands last among names, where a name stands where it comes
up first. -/
def lastSpelling? (header : String) (names : List String) : Option String :=
  (names.eraseDups.filter fun name => Text.lower name = Text.lower header).getLast?

/-- What a header shows once members were edited: its last spelling counts, with the value
that the last edit of that spelling gives it, or else with the one of the member. -/
def editedHeader? (members : Members Json) (edits : List (String × Json)) (header : String) :
    Option String :=
  (lastSpelling? header (members.names ++ Members.names edits)).bind fun spelling =>
    ((Members.lastOf? spelling edits).or (members.find? spelling)).map Json.plainText

/-- The headers that an object shows once it was edited. The last edit of a header wins if
its spelling is the one that stands last. -/
structure ShowsEdits (members : Members Json) (edits : List (String × Json))
    (headers : Table String) : Prop where
  find?_lower : ∀ header, headers.find? (Text.lower header) = editedHeader? members edits header
  isSome : ∀ edit ∈ edits, (headers.find? (Text.lower edit.1)).isSome
  last_wins : ∀ {before header x after}, edits = before ++ (header, x) :: after →
    (∀ edit ∈ after, Text.lower edit.1 ≠ Text.lower header) →
    lastSpelling? header (members.names ++ Members.names edits) = some header →
    headers.find? (Text.lower header) = some x.plainText

theorem lastOf?_of_last {before after : List (String × Json)} {header : String} {x : Json}
    (hlast : ∀ edit ∈ after, Text.lower edit.1 ≠ Text.lower header) :
    Members.lastOf? header (before ++ (header, x) :: after) = some x := by
  have hnone : after.filter (fun edit => edit.1 = header) = [] := by
    apply List.filter_eq_nil_iff.mpr
    intro edit hedit
    have hne : edit.1 ≠ header := fun heq => hlast edit hedit (congrArg Text.lower heq)
    simpa using hne
  rw [Members.lastOf?, List.filter_append, List.filter_cons_of_pos (by simp), hnone]
  simp

section TextMap

variable {members : Members Json} {edits : List (String × Json)} {name field : String}
  {headers : Table String}

theorem find?_of_textMap (hdistinct : members.Distinct)
    (h : textMap name field true
      (edits.foldl (fun members edit => Members.put edit.1 edit.2 members) members) = .ok headers)
    (header : String) :
    headers.find? (Text.lower header) = editedHeader? members edits header := by
  have hform := Members.foldl_put_distinct hdistinct edits
  have hnames := Members.names_foldl_put_eq hdistinct edits
  have hvalues := Members.find?_foldl_put members edits
  generalize edits.foldl (fun members edit => Members.put edit.1 edit.2 members) members =
    edited at *
  have hsame : edited.filter (fun member => Text.lower member.1 = Text.lower header) =
      edited.filter ((fun name => decide (Text.lower name = Text.lower header)) ∘ Prod.fst) :=
    rfl
  rw [textMap_find? h, editedHeader?, lastSpelling?, ← hnames, Members.names, List.filter_map,
    List.getLast?_map, hsame]
  simp only [← hvalues]
  cases hlast : (edited.filter ((fun name =>
      decide (Text.lower name = Text.lower header)) ∘ Prod.fst)).getLast? with
  | none => rfl
  | some last =>
      have hmem : last ∈ edited := List.mem_of_mem_filter (List.mem_of_getLast? hlast)
      rw [Option.map_some, Option.map_some, Option.bind_some, Members.find?_of_mem hform hmem]
      rfl

theorem showsEdits_of_textMap (hdistinct : members.Distinct)
    (h : textMap name field true
      (edits.foldl (fun members edit => Members.put edit.1 edit.2 members) members) =
        .ok headers) :
    ShowsEdits members edits headers := by
  have hshown := find?_of_textMap hdistinct h
  refine ⟨hshown, ?_, ?_⟩
  · intro edit hedit
    have hmem : edit.1 ∈ Members.names (edits.foldl
        (fun members edit => Members.put edit.1 edit.2 members) members) := by
      rw [Members.names_foldl_put_eq hdistinct, List.mem_eraseDups]
      exact List.mem_append_right _ (List.mem_map_of_mem hedit)
    obtain ⟨member, hmember, hname⟩ := List.mem_map.mp hmem
    rw [textMap_find? h, Option.isSome_map, List.getLast?_isSome]
    exact List.ne_nil_of_mem (List.mem_filter.mpr ⟨hmember, by simp [hname]⟩)
  · intro before header x after hedits hlast hspelling
    rw [hshown, editedHeader?, hspelling, Option.bind_some, hedits, lastOf?_of_last hlast]
    rfl

end TextMap

namespace Record

theorem wellFormed_of_decodeOptional {value : Option Json} {members : Members Json}
    (hvalue : ∀ v, value = some v → v.WellFormed)
    (h : decodeOptional asObject value = .ok (some members)) : (Json.obj members).WellFormed := by
  cases value with
  | none => cases h
  | some v =>
      cases v with
      | obj found =>
          cases h
          exact hvalue _ rfl
      | _ => cases h

theorem headers_wellFormed {stored : Json} {record : Record} (hstored : stored.WellFormed)
    (h : decode stored = .ok record) {members : Members Json}
    (hmembers : record.headers = some members ∨ record.responseHeaders = some members) :
    (Json.obj members).WellFormed := by
  obtain ⟨value?, hvalues, hbuilt⟩ : ∃ value? : Field → Option Json,
      (∀ field v, value? field = some v → v.WellFormed) ∧ BuiltFrom value? record := by
    cases stored with
    | obj found =>
        obtain ⟨-, hbuilt⟩ := decode_obj_eq_ok_iff.mp h
        exact ⟨_, fun field v hfind => hstored.find? hfind, hbuilt⟩
    | arr items =>
        obtain ⟨built, hbuild, hlength⟩ := bind_eq_ok.mp h
        have hsame : built = record := by
          split at hlength
          · cases hlength
          · exact Except.ok.inj hlength
        subst hsame
        exact ⟨_, fun field v hitem => hstored.items v (List.mem_of_getElem? hitem),
          build_eq_ok_iff.mp hbuild⟩
    | _ => cases h
  have hheaders := hbuilt.headers
  have hresponse := hbuilt.responseHeaders
  rcases hmembers with hmembers | hmembers
  · rw [hmembers] at hheaders
    exact wellFormed_of_decodeOptional (hvalues .headers) hheaders
  · rw [hmembers] at hresponse
    exact wellFormed_of_decodeOptional (hvalues .responseHeaders) hresponse

end Record

/-- The object of headers that a scenario expects once those of its record were edited. There is
none when neither the record nor the edits have any. -/
inductive ExpectsHeaders (name : String) (stored? : Option (Members Json))
    (edits : List (String × Json)) : Option (Members Json) → Prop
  | nothing (hstored : stored? = none) (hedits : edits = []) :
      ExpectsHeaders name stored? edits none
  | edited {members : Members Json} (hsome : stored? ≠ none ∨ edits ≠ [])
      (hmembers : Edits.editObject name .responseHeaders edits (stored?.getD []) = .ok members) :
      ExpectsHeaders name stored? edits (some members)

namespace Loaded

variable {files : Files} {directory file name : String} {edits : Edits} {loaded : Loaded}
  {testCase : TestCase}

theorem headers_distinct (h : load files directory file name = .ok loaded) :
    (loaded.record.headers.getD []).Distinct ∧
      (loaded.record.responseHeaders.getD []).Distinct := by
  obtain ⟨-, -, records, stored, hrecords, hfind, hdecode, -⟩ := load_eq_ok h
  have hstored := (ScenarioFile.wellFormed_of_load hrecords).find? hfind
  constructor
  · cases hmembers : loaded.record.headers with
    | none => exact Members.distinct_nil
    | some members => exact (Record.headers_wellFormed hstored hdecode (.inl hmembers)).distinct
  · cases hmembers : loaded.record.responseHeaders with
    | none => exact Members.distinct_nil
    | some members => exact (Record.headers_wellFormed hstored hdecode (.inr hmembers)).distinct

theorem expectedHeaders_eq_ok_iff {responseEdits : List (String × Json)}
    {expected : Option (Members Json)} :
    loaded.expectedHeaders responseEdits = .ok expected ↔
      ExpectsHeaders loaded.name loaded.record.responseHeaders responseEdits expected := by
  rw [expectedHeaders]
  generalize loaded.record.responseHeaders = stored?
  constructor
  · intro h
    split at h
    · obtain ⟨members, hmembers, rfl⟩ := map_eq_ok.mp h
      exact .edited (.inl (Option.some_ne_none _)) hmembers
    · split at h
      · next hedits =>
          cases h
          exact .nothing rfl (List.isEmpty_iff.mp hedits)
      · next hedits =>
          obtain ⟨members, hmembers, rfl⟩ := map_eq_ok.mp h
          exact .edited (.inr (by simpa using hedits)) hmembers
  · intro h
    cases h with
    | nothing hstored hedits => simp [hstored, hedits]
    | edited hsome hmembers =>
        cases stored? with
        | some stored => exact map_eq_ok.mpr ⟨_, hmembers, rfl⟩
        | none =>
            have hedits : responseEdits ≠ [] := hsome.resolve_left (· rfl)
            simp only [List.isEmpty_iff, hedits]
            exact map_eq_ok.mpr ⟨_, hmembers, rfl⟩

theorem headers_of_toTestCase (h : loaded.toTestCase edits = .ok testCase) :
    (∃ members, Edits.editObject loaded.name .headers edits.requestHeaders
        (loaded.record.headers.getD []) = .ok members ∧
      textMap loaded.name MapField.headers.name true members = .ok testCase.headers) ∧
      ∃ expected, ExpectsHeaders loaded.name loaded.record.responseHeaders edits.responseHeaders
          expected ∧
        texts? loaded.name .responseHeaders true expected = .ok testCase.expectedHeaders := by
  simp only [toTestCase, bind_eq_ok] at h
  obtain ⟨_, -, _, -, members, hmembers, headers, hheaders, expected, hexpected, shown, hshown,
    _, -, htestCase⟩ := h
  cases htestCase
  exact ⟨⟨members, hmembers, hheaders⟩, expected, expectedHeaders_eq_ok_iff.mp hexpected, hshown⟩

end Loaded

namespace ScenarioFile

def spelledOrders : Members Json :=
  [("order", .obj [("url", .str "/orders"), ("method", .str "get"), ("status", .ofNat 200),
    ("headers", .obj [("X-Trace", .str "a"), ("x-trace", .str "b")])])]

theorem spelledOrders_wellFormed : (Json.obj spelledOrders).WellFormed := by
  have hheaders : (Json.obj [("X-Trace", .str "a"), ("x-trace", .str "b")]).WellFormed := by
    refine .obj (by simp [Members.Distinct, Members.names]) ?_
    simp only [List.forall_mem_cons]
    exact ⟨.str _, .str _, List.forall_mem_nil _⟩
  have hrecord : (Json.obj [("url", .str "/orders"), ("method", .str "get"),
      ("status", .ofNat 200),
      ("headers", .obj [("X-Trace", .str "a"), ("x-trace", .str "b")])]).WellFormed := by
    refine .obj (by simp [Members.Distinct, Members.names]) ?_
    simp only [List.forall_mem_cons]
    exact ⟨.str _, .str _, .num ⟨by decide, by decide⟩, hheaders, List.forall_mem_nil _⟩
  refine .obj (by simp [Members.Distinct, Members.names, spelledOrders]) ?_
  simp only [spelledOrders, List.forall_mem_cons]
  exact ⟨hrecord, List.forall_mem_nil _⟩

def spelledTree : Files := ⟨[(["orders.json"], .file (text spelledOrders).toUTF8)], []⟩

theorem load_spelledOrders : load spelledTree "orders.json" = .ok spelledOrders := by
  have hlocate : spelledTree.locate "orders.json" = .ok ["orders.json"] := rfl
  exact (load_of_readText (Files.readText_of_file hlocate rfl) spelledOrders_wellFormed).mpr rfl

end ScenarioFile

def Record.spelledOrder : Record :=
  { Record.order with headers := some [("X-Trace", .str "a"), ("x-trace", .str "b")] }

theorem Loaded.load_spelledOrder :
    Loaded.load ScenarioFile.spelledTree "" "orders.json" "order" =
      .ok ⟨"order", "orders.json", Record.spelledOrder, none, none⟩ := by
  have hstored : ScenarioFile.record ScenarioFile.spelledTree "orders.json" "order" = .ok _ :=
    bind_eq_ok.mpr ⟨_, ScenarioFile.load_spelledOrders, rfl⟩
  exact bind_eq_ok.mpr ⟨_, hstored, rfl⟩

namespace TestCase

def spelledOrder (trace : String) (expected : Option (Table String)) : TestCase :=
  { order with headers := Table.ofList [("x-trace", trace)], expectedHeaders := expected }

variable {format : Format} {files : Files} {directory file name : String} {edits : Edits}
  {testCase : TestCase}

theorem shows_edits_of_load (h : load format files directory file name edits = .ok testCase) :
    ∃ loaded, Loaded.load files directory file name = .ok loaded ∧
      ((∀ edit ∈ edits.requestHeaders, Path.IsKey edit.1) →
        ShowsEdits (loaded.record.headers.getD []) edits.requestHeaders testCase.headers) ∧
      ((∀ edit ∈ edits.responseHeaders, Path.IsKey edit.1) → edits.responseHeaders ≠ [] →
        ∃ expected, testCase.expectedHeaders = some expected ∧
          ShowsEdits (loaded.record.responseHeaders.getD []) edits.responseHeaders expected) := by
  obtain ⟨loaded, hloaded, htestCase⟩ := bind_eq_ok.mp h
  obtain ⟨hdistinct, hdistinct'⟩ := Loaded.headers_distinct hloaded
  have hfields : ∃ shown : Loaded, shown.name = loaded.name ∧ shown.record = loaded.record ∧
      shown.toTestCase edits = .ok testCase := by
    cases format with
    | plain => exact ⟨loaded, rfl, rfl, htestCase⟩
    | template => exact ⟨loaded.fill edits, rfl, rfl, htestCase⟩
  obtain ⟨shown, hname, hrecord, hshown⟩ := hfields
  obtain ⟨⟨members, hmembers, hheaders⟩, expected, hexpected, htexts⟩ :=
    Loaded.headers_of_toTestCase hshown
  rw [hname, hrecord] at hmembers
  refine ⟨loaded, hloaded, fun hkeys => ?_, fun hkeys hedits => ?_⟩
  · rw [Edits.editObject_of_keys hkeys] at hmembers
    cases hmembers
    exact showsEdits_of_textMap hdistinct hheaders
  · cases hexpected with
    | nothing _ hnone => exact absurd hnone hedits
    | edited _ hmembers =>
        rw [Edits.editObject_of_keys hkeys, hrecord] at hmembers
        cases hmembers
        obtain ⟨texts, htexts, hsome⟩ := map_eq_ok.mp htexts
        exact ⟨texts, hsome.symm, showsEdits_of_textMap hdistinct' htexts⟩

theorem shows_edits_of_load_spelled :
    load .plain ScenarioFile.spelledTree "" "orders.json" "order"
        { requestHeaders := [("x-trace", .str "c"), ("X-TRACE", .num (.int 5))]
          responseHeaders := [("X-A", .str "1"), ("x-a", .str "2")] } =
        .ok (spelledOrder "5" (some (Table.ofList [("x-a", "2")]))) ∧
      (spelledOrder "5" none).headers.find? (Text.lower "X-TRACE") = some "5" ∧
      ∃ expected, some (Table.ofList [("x-a", "2")]) = some expected ∧
        expected.find? (Text.lower "x-a") = some "2" := by
  have hload : load .plain ScenarioFile.spelledTree "" "orders.json" "order"
      { requestHeaders := [("x-trace", .str "c"), ("X-TRACE", .num (.int 5))]
        responseHeaders := [("X-A", .str "1"), ("x-a", .str "2")] } =
      .ok (spelledOrder "5" (some (Table.ofList [("x-a", "2")]))) :=
    bind_eq_ok.mpr ⟨_, Loaded.load_spelledOrder, rfl⟩
  obtain ⟨loaded, hloaded, hrequest, hresponse⟩ := shows_edits_of_load hload
  cases Loaded.load_spelledOrder.symm.trans hloaded
  have htrace : ∀ edit ∈ [("x-trace", Json.str "c"), ("X-TRACE", .num (.int 5))],
      Path.IsKey edit.1 := by
    simp only [List.forall_mem_cons, Path.isKey_iff]
    exact ⟨by decide, by decide, List.forall_mem_nil _⟩
  have hexpect : ∀ edit ∈ [("X-A", Json.str "1"), ("x-a", .str "2")], Path.IsKey edit.1 := by
    simp only [List.forall_mem_cons, Path.isKey_iff]
    exact ⟨by decide, by decide, List.forall_mem_nil _⟩
  have hlast : ∀ first last : String × Json, [first, last] = [first] ++ (last.1, last.2) :: [] :=
    fun _ _ => rfl
  obtain ⟨expected, hexpected, hshows⟩ := hresponse hexpect (by simp)
  refine ⟨hload, ?_, expected, hexpected, ?_⟩
  · exact (hrequest htrace).last_wins (hlast _ _) (List.forall_mem_nil _) rfl
  · exact hshows.last_wins (hlast _ _) (List.forall_mem_nil _) rfl

theorem last_header_edit_loses :
    Path.IsKey "X-Trace" ∧ Path.IsKey "X-A" ∧ Path.IsKey "x-a" ∧
      load .plain ScenarioFile.spelledTree "" "orders.json" "order"
        { requestHeaders := [("X-Trace", .str "c")]
          responseHeaders := [("x-a", .str "1"), ("X-A", .str "2"), ("x-a", .str "3")] } =
            .ok (spelledOrder "b" (some (Table.ofList [("x-a", "2")]))) ∧
      (spelledOrder "b" none).headers.find? (Text.lower "X-Trace") = some "b" ∧
      (Table.ofList [("x-a", "2")]).find? (Text.lower "x-a") = some "2" := by
  have hload : load .plain ScenarioFile.spelledTree "" "orders.json" "order"
      { requestHeaders := [("X-Trace", .str "c")]
        responseHeaders := [("x-a", .str "1"), ("X-A", .str "2"), ("x-a", .str "3")] } =
      .ok (spelledOrder "b" (some (Table.ofList [("x-a", "2")]))) :=
    bind_eq_ok.mpr ⟨_, Loaded.load_spelledOrder, rfl⟩
  simp only [Path.isKey_iff]
  exact ⟨by decide, by decide, by decide, hload, rfl, rfl⟩

end TestCase

end HttpScenario
