import HttpScenario.Proofs.Scenario.Healable

namespace HttpScenario

namespace Record

variable {value? healed? : Field → Option Json} {record : Record} {members healed : Members Json}
  {reply : Reply} {withHeaders : Bool}

def healedBy (record : Record) (reply : Reply) (withHeaders : Bool) : Record :=
  { record with
    status := reply.status
    response := reply.storedBody?
    responseHeaders :=
      if withHeaders then
        some (reply.headers.entries.map fun entry => (entry.1, .str entry.2))
      else record.responseHeaders }

theorem BuiltFrom.withExpectations {status : UInt16} {response : Option Json}
    {responseHeaders : Option (Members Json)} (h : BuiltFrom value? record)
    (hothers : ∀ field, field.name ∉ Reply.expectations → healed? field = value? field)
    (hstatus : ∃ v, healed? .status = some v ∧ asStatus v = .ok status)
    (hresponse : decodeOptional .ok (healed? .response) = .ok response)
    (hheaders : decodeOptional asObject (healed? .responseHeaders) = .ok responseHeaders) :
    BuiltFrom healed? { record with status, response, responseHeaders } where
  url := by
    rw [hothers .url (by decide)]
    exact h.url
  method := by
    rw [hothers .method (by decide)]
    exact h.method
  status := hstatus
  description := by
    rw [hothers .description (by decide)]
    exact h.description
  headers := by
    rw [hothers .headers (by decide)]
    exact h.headers
  cookies := by
    rw [hothers .cookies (by decide)]
    exact h.cookies
  request := by
    rw [hothers .request (by decide)]
    exact h.request
  response := hresponse
  responseHeaders := hheaders
  allowRedirects := by
    rw [hothers .allowRedirects (by decide)]
    exact h.allowRedirects

theorem BuiltFrom.healedBy (h : BuiltFrom (fun field => members.find? field.name) record)
    (hheals : reply.Heals withHeaders members healed) :
    BuiltFrom (fun field => healed.find? field.name) (record.healedBy reply withHeaders) := by
  apply h.withExpectations
  · exact fun field hfield => hheals.others field.name hfield
  · exact ⟨_, hheals.status, Reply.asStatus_ofNat reply.status⟩
  · rw [hheals.find?_response]
    exact Reply.decodeOptional_storedBody?
  · rw [hheals.responseHeaders]
    cases withHeaders with
    | false => exact h.responseHeaders
    | true => rfl

theorem memberChecked_healRecord (h : ∀ member ∈ members, MemberChecked member) (reply : Reply)
    (withHeaders : Bool) :
    ∀ member ∈ reply.healRecord withHeaders members, MemberChecked member := by
  apply Reply.forall_healRecord h
  · apply memberChecked_iff.mpr
    rw [Field.check, Reply.asStatus_ofNat]
    rfl
  · intro body _
    exact memberChecked_iff.mpr rfl
  · exact memberChecked_iff.mpr rfl

theorem decode_healRecord (h : decode (.obj members) = .ok record) (reply : Reply)
    (withHeaders : Bool) :
    decode (.obj (reply.healRecord withHeaders members)) =
      .ok (record.healedBy reply withHeaders) := by
  obtain ⟨hchecked, hbuilt⟩ := decode_obj_eq_ok_iff.mp h
  exact decode_obj_eq_ok_iff.mpr ⟨memberChecked_healRecord hchecked reply withHeaders,
    hbuilt.healedBy (reply.healRecord_heals withHeaders members)⟩

theorem decode_healAll (h : decode (.obj members) = .ok record) (calls : List HealCall) :
    decode (.obj (HealCall.healAll calls members)) =
      .ok (calls.foldl (fun record call => record.healedBy call.reply call.withHeaders) record) := by
  induction calls generalizing members record with
  | nil => exact h
  | cons call calls ih => exact ih (decode_healRecord h call.reply call.withHeaders)

/-- A healing leaves an object from which a record is decoded that has the expectations of the
reply and is otherwise the one before, and this object is what the file then holds. -/
theorem decode_after_heal (h : decode (.obj members) = .ok record) (outcome : Outcome)
    (withHeaders : Bool) :
    decode (.obj (outcome.reply.healRecord withHeaders members)) =
        .ok (record.healedBy outcome.reply withHeaders) ∧
      ∀ files records, ScenarioFile.load files outcome.testCase.filePath = .ok records →
        records.find? outcome.testCase.name = some (.obj members) →
          ∃ written after, outcome.heal files withHeaders = .ok written ∧
            written.readText outcome.testCase.filePath = .ok (ScenarioFile.text after) ∧
            after.find? outcome.testCase.name =
              some (.obj (outcome.reply.healRecord withHeaders members)) := by
  refine ⟨decode_healRecord h outcome.reply withHeaders, ?_⟩
  intro files records hload hfind
  obtain ⟨written, hwrite, hheal⟩ :=
    ScenarioFile.exists_heal_of_record hload hfind outcome.reply withHeaders
  exact ⟨written, _, Outcome.heal_eq_ok.mpr hheal, Files.readText_of_writeText hwrite,
    Members.find?_put_self _ _ _⟩

/-- A record with a member that is no field, and with members that are null. -/
def taggedOrder : Members Json :=
  [("owner", .str "billing"), ("url", .str "/orders"), ("method", .str "get"),
    ("status", .ofNat 200), ("headers", .null), ("response", .null),
    ("response_headers", .obj [("etag", .str "1")])]

theorem taggedOrder_wellFormed : (Json.obj taggedOrder).WellFormed := by
  have hheaders : (Json.obj [("etag", .str "1")]).WellFormed := by
    refine .obj (by simp [Members.Distinct, Members.names]) ?_
    simp only [List.forall_mem_cons]
    exact ⟨.str _, List.forall_mem_nil _⟩
  refine .obj (by simp [Members.Distinct, Members.names, taggedOrder]) ?_
  simp only [taggedOrder, List.forall_mem_cons]
  exact ⟨.str _, .str _, .str _, .num ⟨by decide, by decide⟩, .null, .null, hheaders,
    List.forall_mem_nil _⟩

def taggedTree : Files :=
  ⟨[(["orders.json"], .file (ScenarioFile.text [("order", .obj taggedOrder)]).toUTF8)], []⟩

theorem load_taggedTree :
    ScenarioFile.load taggedTree "orders.json" = .ok [("order", .obj taggedOrder)] := by
  have hlocate : taggedTree.locate "orders.json" = .ok ["orders.json"] := rfl
  have hform : (Json.obj [("order", .obj taggedOrder)]).WellFormed := by
    refine .obj (by simp [Members.Distinct, Members.names]) ?_
    simp only [List.forall_mem_cons]
    exact ⟨taggedOrder_wellFormed, List.forall_mem_nil _⟩
  exact (ScenarioFile.load_of_readText (Files.readText_of_file hlocate rfl) hform).mpr rfl

theorem decode_taggedOrder :
    decode (.obj taggedOrder) =
      .ok { order with responseHeaders := some [("etag", .str "1")] } := rfl

def goneReply : Reply := ⟨404, Table.ofList [("etag", "2")], "gone"⟩

theorem storedBody?_goneReply : goneReply.storedBody? = some (.str "gone") := rfl

theorem decode_after_heal_taggedOrder :
    decode (.obj (goneReply.healRecord false taggedOrder)) =
        .ok { order with
          status := 404, response := some (.str "gone")
          responseHeaders := some [("etag", .str "1")] } ∧
      decode (.obj (goneReply.healRecord true taggedOrder)) =
        .ok { order with
          status := 404, response := some (.str "gone")
          responseHeaders := some [("etag", .str "2")] } ∧
      ∃ written after, (⟨goneReply, TestCase.order⟩ : Outcome).heal taggedTree true = .ok written ∧
        written.readText "orders.json" = .ok (ScenarioFile.text after) ∧
        after.find? "order" = some (.obj (goneReply.healRecord true taggedOrder)) := by
  obtain ⟨hkept, -⟩ := decode_after_heal decode_taggedOrder ⟨goneReply, TestCase.order⟩ false
  obtain ⟨hset, hfile⟩ := decode_after_heal decode_taggedOrder ⟨goneReply, TestCase.order⟩ true
  rw [healedBy, storedBody?_goneReply] at hkept hset
  exact ⟨hkept, hset, hfile taggedTree _ load_taggedTree rfl⟩

end Record

end HttpScenario
