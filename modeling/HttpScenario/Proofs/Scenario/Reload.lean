import HttpScenario.Proofs.Scenario.Decoding
import HttpScenario.Proofs.Scenario.HealedFile
import HttpScenario.Proofs.Table
import HttpScenario.Scenario.Load

namespace HttpScenario

namespace Reply

variable {reply : Reply}

theorem decodeOptional_storedBody? :
    Record.decodeOptional .ok reply.storedBody? = .ok reply.storedBody? := by
  cases hstored : reply.storedBody? with
  | none => rfl
  | some body =>
      rcases storedBody?_eq_some hstored with rfl | ⟨-, hcontainer, -⟩
      · rfl
      · cases body with
        | null => cases hcontainer
        | _ => rfl

theorem resolveBody_storedBody? (hreference : reference? reply.text = none) (files : Files)
    (directory name field : String) :
    resolveBody files directory name field reply.storedBody? =
      .ok (reply.storedBody?.map Json.plainText) := by
  cases hstored : reply.storedBody? with
  | none => rfl
  | some body =>
      rcases storedBody?_eq_some hstored with rfl | ⟨-, hcontainer, -⟩
      · rw [resolveBody, hreference]
        rfl
      · cases body with
        | arr items => rfl
        | obj members => rfl
        | _ => cases hcontainer

theorem asStatus_ofNat (status : UInt16) :
    Record.asStatus (.ofNat status.toNat) = .ok status := by
  have hlt := status.toNat_lt
  rw [Json.ofNat, Record.asStatus, if_pos ⟨by omega, by simp only [UInt16.size]; omega⟩]
  simp

theorem addTexts_lower {texts : Table String} {entries : List (String × String)}
    (hlower : ∀ entry ∈ entries, Text.lower entry.1 = entry.1) (field : String) :
    addTexts true field texts (entries.map fun entry => (entry.1, .str entry.2)) =
      .ok (entries.foldl (fun texts entry => texts.insert entry.1 entry.2) texts) := by
  induction entries generalizing texts with
  | nil => rfl
  | cons entry rest ih =>
      obtain ⟨hentry, hrest⟩ := List.forall_mem_cons.mp hlower
      rw [List.map_cons, addTexts, List.foldl_cons, ← ih hrest]
      simp only [if_true, hentry]
      rfl

theorem texts?_storedHeaders (hlower : ∀ entry ∈ reply.headers.entries,
      Text.lower entry.1 = entry.1) {members : Members Json}
    (hmembers : reply.storedHeaders = .obj members) (name : String) (field : MapField) :
    Loaded.texts? name field true (some members) = .ok (some reply.headers) := by
  cases hmembers
  rw [Loaded.texts?, textMap, addTexts_lower hlower]
  exact congrArg (fun texts => Except.ok (some texts)) (Table.ofList_entries reply.headers)

end Reply

namespace Loaded

variable {files : Files} {directory file name : String} {loaded : Loaded} {testCase : TestCase}

theorem load_eq_ok (h : load files directory file name = .ok loaded) :
    loaded.name = name ∧ loaded.filePath = joinPath directory file ∧
      ∃ records stored, ScenarioFile.load files (joinPath directory file) = .ok records ∧
        records.find? name = some stored ∧ Record.decode stored = .ok loaded.record ∧
        resolveBody files directory name BodyField.response.name loaded.record.response =
          .ok loaded.response := by
  simp only [load, bind_eq_ok, mapError_eq_ok] at h
  obtain ⟨stored, hstored, record, hrecord, request, -, response, hresponse, hloaded⟩ := h
  cases hloaded
  rw [ScenarioFile.record, bind_eq_ok] at hstored
  obtain ⟨records, hrecords, hfind⟩ := hstored
  cases hfound : Members.find? name records with
  | none =>
      rw [hfound] at hfind
      cases hfind
  | some found =>
      rw [hfound] at hfind
      cases hfind
      exact ⟨rfl, rfl, records, stored, hrecords, hfound, hrecord, hresponse⟩

theorem toTestCase_eq_ok (h : loaded.toTestCase {} = .ok testCase) :
    testCase.name = loaded.name ∧ testCase.filePath = loaded.filePath ∧
      testCase.expectedStatus = loaded.record.status ∧
      testCase.expectedBody = loaded.response ∧
      texts? loaded.name .responseHeaders true loaded.record.responseHeaders =
        .ok testCase.expectedHeaders := by
  simp only [toTestCase, bind_eq_ok] at h
  obtain ⟨_, -, expectedBody, hbody, _, -, _, -, expected, hexpected, expectedHeaders, hheaders,
    _, -, htestCase⟩ := h
  cases htestCase
  refine ⟨rfl, rfl, rfl, (Except.ok.inj hbody).symm, ?_⟩
  have hsame : loaded.record.responseHeaders = expected := by
    rw [Loaded.expectedHeaders] at hexpected
    cases hmembers : loaded.record.responseHeaders with
    | none =>
        rw [hmembers] at hexpected
        exact Except.ok.inj hexpected
    | some members =>
        rw [hmembers] at hexpected
        exact Except.ok.inj hexpected
  rw [hsame]
  exact hheaders

end Loaded

theorem TestCase.load_eq_ok {files : Files} {directory file name : String}
    {testCase : TestCase} (h : load .plain files directory file name {} = .ok testCase) :
    ∃ loaded, Loaded.load files directory file name = .ok loaded ∧
      loaded.toTestCase {} = .ok testCase :=
  bind_eq_ok.mp h

namespace Json

theorem readBack?_of_readWithin? {v w : Json} {depth : Nat} (h : v.readWithin? depth = some w) :
    v.readBack? = some w := by
  rw [readWithin?] at h
  split at h
  · exact h
  · cases h

theorem readBackMembers?_of_obj {members : Members Json} {v : Json}
    (h : readBack? (.obj members) = some v) :
    ∃ read, readBackMembers? members = some read ∧ v = .obj read := by
  obtain ⟨read, hread, rfl⟩ := Option.map_eq_some_iff.mp h
  exact ⟨read, hread, rfl⟩

end Json

theorem ScenarioFile.record_of_heal {files healed : Files} {path name : String} {reply : Reply}
    {withHeaders : Bool} {records : Members Json} {stored : Json}
    (hheal : heal files path name reply withHeaders = .ok healed)
    (hload : load healed path = .ok records) (hfind : records.find? name = some stored) :
    ∃ record read, Json.readBackMembers? (reply.healRecord withHeaders record) = some read ∧
      stored = .obj read := by
  obtain ⟨before, record, hbefore, hrecord, hwrite⟩ := heal_eq_ok.mp hheal
  have hform := healed_wellFormed (wellFormed_of_load hbefore) hrecord reply withHeaders
  -- The records are read back one by one; only the healed one matters here, and other
  -- ones may well hold floats that are not read back as themselves.
  have hread := Json.readBack?_of_readWithin? ((load_of_writeText hwrite hform).mp hload)
  obtain ⟨read, hread, heq⟩ := Json.readBackMembers?_of_obj hread
  cases heq
  have hstored := Json.find?_readBackMembers? hread name
  rw [hfind, Members.find?_put_self] at hstored
  obtain ⟨read, hread, rfl⟩ := Json.readBackMembers?_of_obj hstored.symm
  exact ⟨record, read, hread, rfl⟩

theorem Record.decode_of_heals {reply : Reply} {before read : Members Json} {record : Record}
    (hread : Json.readBackMembers? (reply.healRecord true before) = some read)
    (hback : ∀ body, reply.storedBody? = some body → body.ReadsBack)
    (h : Record.decode (.obj read) = .ok record) :
    record.status = reply.status ∧ record.response = reply.storedBody? ∧
      ∃ members, reply.storedHeaders = .obj members ∧ record.responseHeaders = some members := by
  have hheals := reply.healRecord_heals true before
  have hfind := Json.find?_readBackMembers? hread
  obtain ⟨-, hbuilt⟩ := decode_obj_eq_ok_iff.mp h
  obtain ⟨value, hvalue, hstatus⟩ := hbuilt.status
  have hresponse := hbuilt.response
  have hheaders := hbuilt.responseHeaders
  refine ⟨?_, ?_, ?_⟩
  · rw [hfind, hheals.status] at hvalue
    cases hvalue
    exact Except.ok.inj (hstatus.symm.trans (Reply.asStatus_ofNat reply.status))
  · have hbody : read.find? Record.Field.response.name = reply.storedBody? := by
      rw [hfind, hheals.find?_response]
      cases hstored : reply.storedBody? with
      | none => rfl
      | some body => exact hback body hstored
    rw [hbody, Reply.decodeOptional_storedBody?] at hresponse
    exact (Except.ok.inj hresponse).symm
  · refine ⟨_, rfl, ?_⟩
    have hmembers : read.find? Record.Field.responseHeaders.name = some reply.storedHeaders := by
      rw [hfind, hheals.responseHeaders]
      exact reply.storedHeaders_readsBack
    rw [hmembers] at hheaders
    exact (Except.ok.inj hheaders).symm

/-- A test case that is loaded from a file that was healed by a reply expects the status
and the headers of the reply, and the text of its body or the compact form of its document. -/
theorem TestCase.load_of_heal {files healed : Files} {directory file name : String}
    {reply : Reply} {again : TestCase}
    (hheal : ScenarioFile.heal files (joinPath directory file) name reply true = .ok healed)
    (hlower : ∀ entry ∈ reply.headers.entries, Text.lower entry.1 = entry.1)
    (hreference : reference? reply.text = none)
    (hback : ∀ body, reply.storedBody? = some body → body.ReadsBack)
    (hagain : load .plain healed directory file name {} = .ok again) :
    again.expectedStatus = reply.status ∧
      again.expectedBody = reply.storedBody?.map Json.plainText ∧
      again.expectedHeaders = some reply.headers := by
  obtain ⟨loaded, hloaded, htestCase⟩ := load_eq_ok hagain
  obtain ⟨-, -, records, stored, hrecords, hfind, hdecode, hresolve⟩ := Loaded.load_eq_ok hloaded
  obtain ⟨-, -, hstatus, hbody, hheaders⟩ := Loaded.toTestCase_eq_ok htestCase
  obtain ⟨record, read, hread, rfl⟩ := ScenarioFile.record_of_heal hheal hrecords hfind
  obtain ⟨hrecordStatus, hresponse, members, hmembers, hresponseHeaders⟩ :=
    Record.decode_of_heals hread hback hdecode
  refine ⟨hstatus.trans hrecordStatus, hbody.trans ?_, ?_⟩
  · rw [hresponse, Reply.resolveBody_storedBody? hreference] at hresolve
    exact (Except.ok.inj hresolve).symm
  · rw [hresponseHeaders, Reply.texts?_storedHeaders hlower hmembers] at hheaders
    exact (Except.ok.inj hheaders).symm

end HttpScenario
