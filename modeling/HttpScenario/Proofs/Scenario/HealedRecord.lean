import HttpScenario.Proofs.Json.ReadBack
import HttpScenario.Proofs.Json.Reading
import HttpScenario.Proofs.Table
import HttpScenario.Scenario.Heal

namespace HttpScenario

namespace Reply

variable {reply : Reply} {body : Json}

/-- The body of a reply that is said to be JSON and is an array or an object. -/
structure IsDocument (reply : Reply) (body : Json) : Prop where
  said : reply.isJson = true
  json : reply.json = .ok body
  container : body.isContainer = true

theorem IsDocument.unique {other : Json} (h : reply.IsDocument body)
    (hother : reply.IsDocument other) : body = other :=
  Except.ok.inj (h.json.symm.trans hother.json)

/-- How a body is stored: not at all when it is empty, as a document when it is one, and as
a text otherwise. -/
inductive StoredAs (reply : Reply) : Option Json → Prop where
  | nothing (hempty : reply.text = "") : StoredAs reply none
  | document {body : Json} (hdocument : reply.IsDocument body) : StoredAs reply (some body)
  | text (hfull : reply.text ≠ "") (hnone : ∀ body, ¬ reply.IsDocument body) :
      StoredAs reply (some (.str reply.text))

theorem storedBody?_eq_none : reply.storedBody? = none ↔ reply.text = "" := by
  rw [storedBody?]
  constructor
  · intro h
    by_contra hne
    rw [if_neg (by simpa using hne)] at h
    split at h
    · split at h
      · cases h
      · cases h
    · cases h
  · rintro h
    rw [if_pos (by simpa using h)]

theorem storedBody?_eq_some (h : reply.storedBody? = some body) :
    body = .str reply.text ∨
      reply.json = .ok body ∧ body.isContainer = true ∧ reply.isJson = true := by
  rw [storedBody?] at h
  split at h
  · cases h
  · split at h
    · next hjson =>
        split at h
        · next hstored =>
            cases h
            exact .inr ⟨hjson, Bool.and_eq_true_iff.mp hstored⟩
        · exact .inl (Option.some.inj h).symm
    · exact .inl (Option.some.inj h).symm

theorem storedBody?_of_json (hjson : reply.json = .ok body) (hcontainer : body.isContainer = true)
    (hsaid : reply.isJson = true) : reply.storedBody? = some body := by
  have hsome : reply.text.isEmpty = false := by
    by_contra hempty
    have htext : reply.text = "" := by simpa using hempty
    rw [json, htext] at hjson
    cases hjson
  simp [storedBody?, hsome, hjson, hcontainer, hsaid]

theorem storedAs_storedBody? (reply : Reply) : reply.StoredAs reply.storedBody? := by
  cases hstored : reply.storedBody? with
  | none => exact .nothing (storedBody?_eq_none.mp hstored)
  | some body =>
      rcases storedBody?_eq_some hstored with rfl | ⟨hjson, hcontainer, hsaid⟩
      · refine .text ?_ ?_
        · intro hempty
          cases hstored.symm.trans (storedBody?_eq_none.mpr hempty)
        · rintro body ⟨hsaid, hjson, hcontainer⟩
          cases hstored.symm.trans (storedBody?_of_json hjson hcontainer hsaid)
          cases hcontainer
      · exact .document ⟨hsaid, hjson, hcontainer⟩

theorem storedAs_iff {stored : Option Json} :
    reply.StoredAs stored ↔ stored = reply.storedBody? := by
  constructor
  · intro h
    cases h with
    | nothing hempty => exact (storedBody?_eq_none.mpr hempty).symm
    | document hdocument =>
        exact (storedBody?_of_json hdocument.json hdocument.container hdocument.said).symm
    | text hfull hnone =>
        have hstored := reply.storedAs_storedBody?
        generalize reply.storedBody? = stored at hstored ⊢
        cases hstored with
        | nothing hempty => exact absurd hempty hfull
        | document hdocument => exact absurd hdocument (hnone _)
        | text => rfl
  · rintro rfl
    exact reply.storedAs_storedBody?

def expectations : List String :=
  [Record.Field.status.name, Record.Field.response.name, Record.Field.responseHeaders.name]

/-- The record `healed` is `record` with the expectations that a reply meets. -/
structure Heals (reply : Reply) (withHeaders : Bool) (record healed : Members Json) : Prop where
  status : healed.find? Record.Field.status.name = some (.ofNat reply.status.toNat)
  response : reply.StoredAs (healed.find? Record.Field.response.name)
  responseHeaders : healed.find? Record.Field.responseHeaders.name =
    if withHeaders then
      some (.obj (reply.headers.entries.map fun entry => (entry.1, .str entry.2)))
    else record.find? Record.Field.responseHeaders.name
  others : ∀ field, field ∉ expectations → healed.find? field = record.find? field

theorem Heals.find?_response {withHeaders : Bool} {record healed : Members Json}
    (h : reply.Heals withHeaders record healed) :
    healed.find? Record.Field.response.name = reply.storedBody? :=
  storedAs_iff.mp h.response

def withBody (body? : Option Json) (record : Members Json) : Members Json :=
  match body? with
  | none => record.erase Record.Field.response.name
  | some body => record.put Record.Field.response.name body

theorem find?_withBody_self (body? : Option Json) (record : Members Json) :
    (withBody body? record).find? Record.Field.response.name = body? := by
  cases body? with
  | none => exact Members.find?_erase_self _ _
  | some body => exact Members.find?_put_self _ _ _

theorem find?_withBody_of_ne {field : String} (h : field ≠ Record.Field.response.name)
    (body? : Option Json) (record : Members Json) :
    (withBody body? record).find? field = record.find? field := by
  cases body? with
  | none => exact Members.find?_erase_of_ne h _
  | some body => exact Members.find?_put_of_ne h _ _

theorem healRecord_eq (reply : Reply) (withHeaders : Bool) (record : Members Json) :
    reply.healRecord withHeaders record =
      let healed := withBody reply.storedBody?
        (record.put Record.Field.status.name (.ofNat reply.status.toNat))
      if withHeaders then healed.put Record.Field.responseHeaders.name reply.storedHeaders
      else healed := by
  rw [healRecord]
  cases reply.storedBody? <;> rfl

theorem healRecord_heals (reply : Reply) (withHeaders : Bool) (record : Members Json) :
    reply.Heals withHeaders record (reply.healRecord withHeaders record) := by
  have hresponse : Record.Field.status.name ≠ Record.Field.response.name := by decide
  have hheaders : Record.Field.status.name ≠ Record.Field.responseHeaders.name := by decide
  have hboth : Record.Field.response.name ≠ Record.Field.responseHeaders.name := by decide
  rw [healRecord_eq]
  cases withHeaders with
  | false =>
      refine ⟨?_, storedAs_iff.mpr (find?_withBody_self _ _), ?_, fun field hfield => ?_⟩
      · exact (find?_withBody_of_ne hresponse _ _).trans (Members.find?_put_self _ _ _)
      · exact (find?_withBody_of_ne hboth.symm _ _).trans
          (Members.find?_put_of_ne hheaders.symm _ _)
      · simp only [expectations, List.mem_cons, List.not_mem_nil, or_false, not_or] at hfield
        exact (find?_withBody_of_ne hfield.2.1 _ _).trans
          (Members.find?_put_of_ne hfield.1 _ _)
  | true =>
      refine ⟨?_, ?_, Members.find?_put_self _ _ _, fun field hfield => ?_⟩
      · exact (Members.find?_put_of_ne hheaders _ _).trans
          ((find?_withBody_of_ne hresponse _ _).trans (Members.find?_put_self _ _ _))
      · apply storedAs_iff.mpr
        exact (Members.find?_put_of_ne hboth _ _).trans (find?_withBody_self _ _)
      · simp only [expectations, List.mem_cons, List.not_mem_nil, or_false, not_or] at hfield
        exact (Members.find?_put_of_ne hfield.2.2 _ _).trans
          ((find?_withBody_of_ne hfield.2.1 _ _).trans (Members.find?_put_of_ne hfield.1 _ _))

theorem forall_healRecord {motive : String × Json → Prop} {reply : Reply}
    {record : Members Json} (hrecord : ∀ member ∈ record, motive member)
    (hstatus : motive (Record.Field.status.name, .ofNat reply.status.toNat))
    (hbody : ∀ body, reply.storedBody? = some body → motive (Record.Field.response.name, body))
    (hheaders : motive (Record.Field.responseHeaders.name, reply.storedHeaders))
    (withHeaders : Bool) : ∀ member ∈ reply.healRecord withHeaders record, motive member := by
  have hput := Members.forall_put hrecord hstatus
  have hhealed : ∀ member ∈ withBody reply.storedBody?
      (record.put Record.Field.status.name (.ofNat reply.status.toNat)), motive member := by
    cases hstored : reply.storedBody? with
    | none => exact fun member hmember => hput member (Members.mem_of_mem_erase hmember)
    | some body => exact Members.forall_put hput (hbody body hstored)
  rw [healRecord_eq]
  cases withHeaders with
  | false => exact hhealed
  | true => exact Members.forall_put hhealed hheaders

theorem healRecord_distinct {record : Members Json} (h : record.Distinct) (reply : Reply)
    (withHeaders : Bool) : (reply.healRecord withHeaders record).Distinct := by
  have hstatus := h.put Record.Field.status.name (.ofNat reply.status.toNat)
  have hhealed : (withBody reply.storedBody?
      (record.put Record.Field.status.name (.ofNat reply.status.toNat))).Distinct := by
    cases reply.storedBody? with
    | none => exact hstatus.erase _
    | some body => exact hstatus.put _ body
  rw [healRecord_eq]
  cases withHeaders with
  | false => exact hhealed
  | true => exact hhealed.put _ _

theorem storedBody?_depth_le {reply : Reply} {limit : Nat} :
    (∀ body, reply.storedBody? = some body → body.depth ≤ limit) ↔
      ∀ body, reply.isJson = true → reply.json = .ok body → body.depth ≤ limit := by
  constructor
  · intro h body hsaid hjson
    cases hcontainer : body.isContainer with
    | false =>
        rw [Json.depth_eq_zero hcontainer]
        exact Nat.zero_le limit
    | true => exact h body (storedBody?_of_json hjson hcontainer hsaid)
  · intro h body hstored
    rcases storedBody?_eq_some hstored with rfl | ⟨hjson, -, hsaid⟩
    · exact Nat.zero_le limit
    · exact h body hsaid hjson

theorem storedBody?_readsBack {reply : Reply} {body : Json}
    (h : ∀ body, reply.json = .ok body → body.ReadsBack) (hstored : reply.storedBody? = some body) :
    body.ReadsBack := by
  rcases storedBody?_eq_some hstored with rfl | ⟨hjson, -, -⟩
  · rfl
  · exact h body hjson

theorem storedBody?_wellFormed {reply : Reply} {body : Json}
    (h : reply.storedBody? = some body) : body.WellFormed := by
  rcases storedBody?_eq_some h with rfl | ⟨hjson, -, -⟩
  · exact .str _
  · exact Json.wellFormed_of_parse hjson

theorem storedHeaders_distinct (reply : Reply) :
    Members.Distinct (reply.headers.entries.map fun entry => (entry.1, Json.str entry.2)) := by
  rw [Members.Distinct, Members.names, List.map_map]
  exact reply.headers.keys_nodup

theorem forall_storedHeaders {motive : Json → Prop} (h : ∀ text, motive (.str text))
    (reply : Reply) :
    ∀ member ∈ reply.headers.entries.map fun entry => (entry.1, Json.str entry.2),
      motive member.2 := by
  intro member hmember
  obtain ⟨entry, -, rfl⟩ := List.mem_map.mp hmember
  exact h entry.2

theorem storedHeaders_wellFormed (reply : Reply) : reply.storedHeaders.WellFormed :=
  .obj reply.storedHeaders_distinct (reply.forall_storedHeaders .str)

theorem storedHeaders_readsBack (reply : Reply) : reply.storedHeaders.ReadsBack :=
  Json.readsBack_obj.mpr (reply.forall_storedHeaders fun _ => rfl)

theorem storedHeaders_depth_le (reply : Reply) : reply.storedHeaders.depth ≤ 1 :=
  Json.depth_obj_le.mpr
    (forall_storedHeaders (motive := (·.depth ≤ 0)) (fun _ => Nat.le_refl 0) reply)

theorem healRecord_wellFormed {record : Members Json} (h : (Json.obj record).WellFormed)
    (reply : Reply) (withHeaders : Bool) :
    (Json.obj (reply.healRecord withHeaders record)).WellFormed := by
  have hstatus : (Json.ofNat reply.status.toNat).WellFormed := by
    have hlt := reply.status.toNat_lt
    exact .num ⟨by omega, by omega⟩
  exact .obj (healRecord_distinct h.distinct reply withHeaders)
    (forall_healRecord (motive := (·.2.WellFormed)) h.members hstatus
      (fun _ => storedBody?_wellFormed) reply.storedHeaders_wellFormed withHeaders)

theorem healRecord_readsBack {record : Members Json} (h : (Json.obj record).ReadsBack)
    {reply : Reply} (hbody : ∀ body, reply.storedBody? = some body → body.ReadsBack)
    (withHeaders : Bool) : (Json.obj (reply.healRecord withHeaders record)).ReadsBack :=
  Json.readsBack_obj.mpr
    (forall_healRecord (motive := (·.2.ReadsBack)) (Json.readsBack_obj.mp h) rfl hbody
      reply.storedHeaders_readsBack withHeaders)

theorem healRecord_depth_le {record : Members Json} {limit : Nat}
    (h : (Json.obj record).depth ≤ limit + 2) (reply : Reply) (withHeaders : Bool) :
    (Json.obj (reply.healRecord withHeaders record)).depth ≤ limit + 2 ↔
      ∀ body, reply.storedBody? = some body → body.depth ≤ limit + 1 := by
  rw [Json.depth_obj_le] at h ⊢
  constructor
  · intro hhealed body hbody
    have hheals := reply.healRecord_heals withHeaders record
    exact hhealed _ (Members.mem_of_find? (hheals.find?_response.trans hbody))
  · intro hbody
    exact forall_healRecord (motive := (·.2.depth ≤ limit + 1)) h (Nat.zero_le _) hbody
      (Nat.le_trans reply.storedHeaders_depth_le (Nat.le_add_left _ _)) withHeaders

end Reply

end HttpScenario
