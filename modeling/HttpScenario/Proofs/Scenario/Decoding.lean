import HttpScenario.Proofs.Results
import HttpScenario.Scenario.Record
import Mathlib.Data.List.Nodup

namespace HttpScenario.Record

variable {α : Type} {value? : Field → Option Json} {absent : Field → Fault} {record : Record}
  {members : Members Json}

def required (value? : Field → Option Json) (absent : Field → Fault) (field : Field) :
    Except Fault Json :=
  match value? field with
  | some v => .ok v
  | none => .error (absent field)

def decodeOptional (decode : Json → Except Fault α) : Option Json → Except Fault (Option α)
  | some v => asOptional decode v
  | none => .ok none

def decodeFlag : Option Json → Except Fault Bool
  | some v => asFlag v
  | none => .ok true

/-- The fields of a record are what their values are decoded to. -/
structure BuiltFrom (value? : Field → Option Json) (record : Record) : Prop where
  url : ∃ v, value? .url = some v ∧ asText v = .ok record.url
  method : ∃ v, value? .method = some v ∧ asText v = .ok record.method
  status : ∃ v, value? .status = some v ∧ asStatus v = .ok record.status
  description : decodeOptional asText (value? .description) = .ok record.description
  headers : decodeOptional asObject (value? .headers) = .ok record.headers
  cookies : decodeOptional asObject (value? .cookies) = .ok record.cookies
  request : decodeOptional .ok (value? .request) = .ok record.request
  response : decodeOptional .ok (value? .response) = .ok record.response
  responseHeaders : decodeOptional asObject (value? .responseHeaders) = .ok record.responseHeaders
  allowRedirects : decodeFlag (value? .allowRedirects) = .ok record.allowRedirects

theorem required_eq_ok {field : Field} {v : Json} :
    required value? absent field = .ok v ↔ value? field = some v := by
  rw [required]
  cases value? field with
  | none => exact ⟨nofun, nofun⟩
  | some w => simp

theorem build_eq (value? : Field → Option Json) (absent : Field → Fault) :
    build value? absent = (do
      let url ← asText (← required value? absent .url)
      let method ← asText (← required value? absent .method)
      let status ← asStatus (← required value? absent .status)
      let description ← decodeOptional asText (value? .description)
      let headers ← decodeOptional asObject (value? .headers)
      let cookies ← decodeOptional asObject (value? .cookies)
      let request ← decodeOptional .ok (value? .request)
      let response ← decodeOptional .ok (value? .response)
      let responseHeaders ← decodeOptional asObject (value? .responseHeaders)
      let allowRedirects ← decodeFlag (value? .allowRedirects)
      return { url, method, status, description, headers, cookies, request, response,
               responseHeaders, allowRedirects }) := by
  unfold build required decodeOptional decodeFlag
  cases value? .allowRedirects with
  | none => rfl
  | some v => rfl

theorem build_eq_ok_iff : build value? absent = .ok record ↔ BuiltFrom value? record := by
  simp only [build_eq, bind_eq_ok, required_eq_ok]
  constructor
  · intro ⟨url, hurl, _, hurl', method, hmethod, _, hmethod', status, hstatus, _, hstatus', _,
      hdescription, _, hheaders, _, hcookies, _, hrequest, _, hresponse, _, hresponseHeaders, _,
      hallowRedirects, h⟩
    cases h
    exact ⟨⟨url, hurl, hurl'⟩, ⟨method, hmethod, hmethod'⟩, ⟨status, hstatus, hstatus'⟩,
      hdescription, hheaders, hcookies, hrequest, hresponse, hresponseHeaders, hallowRedirects⟩
  · intro ⟨⟨url, hurl, hurl'⟩, ⟨method, hmethod, hmethod'⟩, ⟨status, hstatus, hstatus'⟩,
      hdescription, hheaders, hcookies, hrequest, hresponse, hresponseHeaders, hallowRedirects⟩
    exact ⟨url, hurl, _, hurl', method, hmethod, _, hmethod', status, hstatus, _, hstatus', _,
      hdescription, _, hheaders, _, hcookies, _, hrequest, _, hresponse, _, hresponseHeaders, _,
      hallowRedirects, rfl⟩

def MemberChecked (member : String × Json) : Prop :=
  ∀ field : Field, field.name = member.1 → field.check member.2 = .ok ()

theorem Field.mem_all (field : Field) : field ∈ all := by
  cases field <;> decide

theorem Field.eq_of_name_eq {field other : Field} (h : field.name = other.name) :
    field = other := by
  have hnames : (all.map name).Nodup := by decide
  exact List.inj_on_of_nodup_map hnames field.mem_all other.mem_all h

theorem memberChecked_iff {field : Field} {v : Json} :
    MemberChecked (field.name, v) ↔ field.check v = .ok () := by
  constructor
  · exact fun h => h field rfl
  · intro h other hother
    rwa [Field.eq_of_name_eq hother]

theorem checkMembers_cons {member : String × Json} :
    checkMembers (member :: members) = .ok () ↔
      MemberChecked member ∧ checkMembers members = .ok () := by
  obtain ⟨name, v⟩ := member
  rw [checkMembers]
  cases hfind : Field.all.find? fun field => field.name == name with
  | none =>
      have hother : MemberChecked (name, v) := by
        intro field hname
        have hnot := List.find?_eq_none.mp hfind field field.mem_all
        exact absurd (beq_iff_eq.mpr hname) hnot
      exact (and_iff_right hother).symm
  | some field =>
      have hname : field.name = name := by simpa using List.find?_some hfind
      rw [← hname, memberChecked_iff]
      exact check_bind_eq_ok

theorem checkMembers_eq_ok_iff :
    checkMembers members = .ok () ↔ ∀ member ∈ members, MemberChecked member := by
  induction members with
  | nil => exact iff_of_true rfl (List.forall_mem_nil _)
  | cons member members ih => rw [checkMembers_cons, ih, List.forall_mem_cons]

theorem decode_obj_eq_ok_iff :
    decode (.obj members) = .ok record ↔ (∀ member ∈ members, MemberChecked member) ∧
      BuiltFrom (fun field => members.find? field.name) record := by
  rw [← checkMembers_eq_ok_iff, ← build_eq_ok_iff]
  exact check_bind_eq_ok

end HttpScenario.Record
