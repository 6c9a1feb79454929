import HttpScenario.Proofs.Scenario.HealingRun

namespace HttpScenario

/-! A healing rewrites one file, in which it sets the expectations of one record in their
places, or it fails for a cause that lies in the file and changes nothing. -/

namespace Reply

variable {reply : Reply} {record : Members Json}

def setNames (reply : Reply) (withHeaders : Bool) : List String :=
  Record.Field.status.name ::
    ((if reply.text = "" then [] else [Record.Field.response.name]) ++
      if withHeaders then [Record.Field.responseHeaders.name] else [])

def setMembers (reply : Reply) (withHeaders : Bool) : Members Json :=
  (Record.Field.status.name, .ofNat reply.status.toNat) ::
    ((reply.storedBody?.map fun body => (Record.Field.response.name, body)).toList ++
      if withHeaders then [(Record.Field.responseHeaders.name, reply.storedHeaders)] else [])

def keptMembers (reply : Reply) (record : Members Json) : Members Json :=
  if reply.text = "" then record.erase Record.Field.response.name else record

/-- The record `healed` is `record` with the expectations that a reply meets: those that were
there stand where they stood, and new ones at the end. -/
structure HealsInPlace (reply : Reply) (withHeaders : Bool) (record healed : Members Json) : Prop
    extends reply.Heals withHeaders record healed where
  names : healed.names =
    (if reply.text = "" then record.names.filter (· ≠ Record.Field.response.name)
      else record.names) ++
        (reply.setNames withHeaders).filter (· ∉ record.names)

theorem storedBody?_ne_none (hfull : reply.text ≠ "") : ∃ body, reply.storedBody? = some body :=
  Option.ne_none_iff_exists'.mp fun hnone => hfull (storedBody?_eq_none.mp hnone)

theorem healRecord_eq_foldl (reply : Reply) (withHeaders : Bool) (record : Members Json) :
    reply.healRecord withHeaders record =
      (reply.setMembers withHeaders).foldl (fun members pair => members.put pair.1 pair.2)
        (reply.keptMembers record) := by
  have hne : Record.Field.response.name ≠ Record.Field.status.name := by decide
  rw [healRecord_eq, setMembers, keptMembers]
  by_cases hempty : reply.text = ""
  · rw [if_pos hempty, storedBody?_eq_none.mpr hempty, withBody, Members.erase_put_of_ne hne]
    cases withHeaders <;> rfl
  · obtain ⟨body, hbody⟩ := storedBody?_ne_none hempty
    rw [if_neg hempty, hbody]
    cases withHeaders <;> rfl

theorem names_setMembers (reply : Reply) (withHeaders : Bool) :
    (reply.setMembers withHeaders).names = reply.setNames withHeaders := by
  rw [setMembers, setNames]
  by_cases hempty : reply.text = ""
  · rw [if_pos hempty, storedBody?_eq_none.mpr hempty]
    cases withHeaders <;> rfl
  · obtain ⟨body, hbody⟩ := storedBody?_ne_none hempty
    rw [if_neg hempty, hbody]
    cases withHeaders <;> rfl

theorem names_keptMembers (reply : Reply) (record : Members Json) :
    (reply.keptMembers record).names =
      if reply.text = "" then record.names.filter (· ≠ Record.Field.response.name)
      else record.names := by
  rw [keptMembers]
  split
  · exact Members.names_erase _ _
  · rfl

theorem setNames_nodup (reply : Reply) (withHeaders : Bool) :
    (reply.setNames withHeaders).Nodup := by
  rw [setNames]
  split
  · cases withHeaders <;> decide
  · cases withHeaders <;> decide

theorem mem_names_keptMembers {field : String} {withHeaders : Bool}
    (h : field ∈ reply.setNames withHeaders) (record : Members Json) :
    field ∈ (reply.keptMembers record).names ↔ field ∈ record.names := by
  rw [names_keptMembers]
  split
  · next hempty =>
      have hne : field ≠ Record.Field.response.name := by
        rintro rfl
        rw [setNames, if_pos hempty] at h
        revert h
        cases withHeaders <;> decide
      simp [hne]
  · rfl

theorem healRecord_healsInPlace (reply : Reply) (withHeaders : Bool) (record : Members Json) :
    reply.HealsInPlace withHeaders record (reply.healRecord withHeaders record) := by
  have hheals := reply.healRecord_heals withHeaders record
  refine ⟨hheals, ?_⟩
  have hdistinct : (reply.setMembers withHeaders).Distinct := by
    rw [Members.Distinct, names_setMembers]
    exact reply.setNames_nodup withHeaders
  have hfresh : (reply.setNames withHeaders).filter (· ∉ (reply.keptMembers record).names) =
      (reply.setNames withHeaders).filter (· ∉ record.names) := by
    apply List.filter_congr
    intro field hfield
    exact decide_eq_decide.mpr (not_congr (mem_names_keptMembers hfield record))
  rw [healRecord_eq_foldl, Members.names_foldl_put _ hdistinct, names_setMembers, hfresh,
    names_keptMembers]

end Reply

/-- The tree `written` is `files` with a text in the file that a path leads to. -/
structure Files.Rewritten (files : Files) (path text : String) (written : Files) : Prop where
  content : ∃ location, files.locate path = .ok location ∧
    written.find? location = some (.file text.toUTF8) ∧
    ∀ other, other ≠ location → written.find? other = files.find? other
  workplace : written.workplace = files.workplace

theorem Files.rewritten_of_writeText {files written : Files} {path text : String}
    (h : files.writeText path text = .ok written) : files.Rewritten path text written := by
  obtain ⟨location, hlocate, hne, -, hset⟩ := writeText_eq_ok h
  refine ⟨⟨location, hlocate, ?_, fun other hother => find?_of_writeText h hlocate hother⟩, ?_⟩
  · rw [hset]
    exact find?_set_self hne _
  · rw [hset]
    rfl

namespace ScenarioFile

variable {files : Files} {path name : String} {records : Members Json}

inductive Refuses (files : Files) (path name : String) : HealFault → Prop where
  | unreadable {fault : FileFault} (hread : files.readText path = .error fault) :
      Refuses files path name (.unreadable fault)
  | notJson {content : String} {e : Json.ParseError} (hread : files.readText path = .ok content)
      (hparse : Json.parse content = .error e) : Refuses files path name (.notJson e)
  | notObject {content : String} {v : Json} (hread : files.readText path = .ok content)
      (hparse : Json.parse content = .ok v) (hobject : v.isObject = false) :
      Refuses files path name .notObject
  | noRecord {records : Members Json} (hload : load files path = .ok records)
      (hrecord : ∀ record, records.find? name ≠ some (.obj record)) :
      Refuses files path name (.noRecord name)

theorem heal_of_not_read {fault : HealFault} (h : readForHealing files path = .error fault)
    (name : String) (reply : Reply) (withHeaders : Bool) :
    heal files path name reply withHeaders = .error fault := by
  rw [heal_eq, h]
  rfl

theorem heal_of_no_record (hload : load files path = .ok records)
    (h : ∀ record, records.find? name ≠ some (.obj record)) (reply : Reply)
    (withHeaders : Bool) :
    heal files path name reply withHeaders = .error (.noRecord name) := by
  rw [heal_eq, readForHealing_eq_ok.mpr hload]
  have hrecords : healRecords name reply withHeaders records = .error (.noRecord name) := by
    unfold healRecords
    split
    · next record hfind => exact absurd hfind (h record)
    · rfl
  simp only [bind, Except.bind, hrecords]

theorem exists_heal_of_record {record : Members Json} (hload : load files path = .ok records)
    (hfind : records.find? name = some (.obj record)) (reply : Reply) (withHeaders : Bool) :
    ∃ written,
      files.writeText path
          (text (records.put name (.obj (reply.healRecord withHeaders record)))) =
            .ok written ∧
        heal files path name reply withHeaders = .ok written := by
  obtain ⟨content, hread, -⟩ := load_eq_ok.mp hload
  obtain ⟨written, hwrite⟩ := Files.exists_writeText_of_readText hread
    (text (records.put name (.obj (reply.healRecord withHeaders record))))
  exact ⟨written, hwrite, heal_eq_ok.mpr ⟨records, record, hload, hfind, hwrite⟩⟩

theorem readForHealing_cases (files : Files) (path name : String) :
    (∃ fault, readForHealing files path = .error fault ∧ Refuses files path name fault) ∨
      ∃ records, load files path = .ok records := by
  cases hread : files.readText path with
  | error fault => exact .inl ⟨_, by rw [readForHealing, hread], .unreadable hread⟩
  | ok content =>
      cases hparse : Json.parse content with
      | error e =>
          refine .inl ⟨.notJson e, ?_, .notJson hread hparse⟩
          simp only [readForHealing, hread, hparse]
      | ok v =>
          cases v with
          | obj records => exact .inr ⟨records, load_eq_ok.mpr ⟨content, hread, hparse⟩⟩
          | _ =>
              refine .inl ⟨.notObject, ?_, .notObject hread hparse rfl⟩
              simp only [readForHealing, hread, hparse]

theorem heal_cases (files : Files) (path name : String) (reply : Reply) (withHeaders : Bool) :
    (∃ fault, heal files path name reply withHeaders = .error fault ∧
        Refuses files path name fault) ∨
      ∃ records record written, load files path = .ok records ∧
        records.find? name = some (.obj record) ∧
        files.writeText path
          (text (records.put name (.obj (reply.healRecord withHeaders record)))) =
            .ok written ∧
        heal files path name reply withHeaders = .ok written := by
  rcases readForHealing_cases files path name with ⟨fault, hfault, hrefuses⟩ | ⟨records, hload⟩
  · exact .inl ⟨fault, heal_of_not_read hfault name reply withHeaders, hrefuses⟩
  · by_cases hrecord : ∃ record, records.find? name = some (.obj record)
    · obtain ⟨record, hfind⟩ := hrecord
      obtain ⟨written, hwrite, hheal⟩ := exists_heal_of_record hload hfind reply withHeaders
      exact .inr ⟨records, record, written, hload, hfind, hwrite, hheal⟩
    · have hnone : ∀ record, records.find? name ≠ some (.obj record) :=
        fun record hfind => hrecord ⟨record, hfind⟩
      exact .inl ⟨_, heal_of_no_record hload hnone reply withHeaders, .noRecord hload hnone⟩

end ScenarioFile

/-- A healing fails for a cause that lies in the file and leaves all files as they are, or it
rewrites that file alone. The new text is that of the records, in their order, with the
expectations of the one record set in their places and everything else as it was. -/
theorem HealCall.after_cases (call : HealCall) (files : Files) :
    (∃ fault, ScenarioFile.Refuses files call.path call.name fault ∧
        call.outcome.heal files call.withHeaders = .error ⟨call.path, fault⟩ ∧
        call.after files = files) ∨
      ∃ records after record healed : Members Json,
        ScenarioFile.load files call.path = .ok records ∧
        records.find? call.name = some (.obj record) ∧
        call.outcome.heal files call.withHeaders = .ok (call.after files) ∧
        files.Rewritten call.path ((Json.obj after).pretty ++ "\n") (call.after files) ∧
        after.names = records.names ∧ after.find? call.name = some (.obj healed) ∧
        (∀ other, other ≠ call.name → after.find? other = records.find? other) ∧
        call.reply.HealsInPlace call.withHeaders record healed := by
  rcases ScenarioFile.heal_cases files call.path call.name call.reply call.withHeaders with
    ⟨fault, hheal, hrefuses⟩ | ⟨records, record, written, hload, hfind, hwrite, hheal⟩
  · have hfails : call.outcome.heal files call.withHeaders = .error ⟨call.path, fault⟩ :=
      Outcome.heal_of_fault hheal
    exact .inl ⟨fault, hrefuses, hfails, after_of_error hfails⟩
  · have hsucceeds : call.outcome.heal files call.withHeaders = .ok written :=
      Outcome.heal_eq_ok.mpr hheal
    rw [after_of_ok hsucceeds]
    exact .inr ⟨records, _, record, _, hload, hfind, hsucceeds,
      Files.rewritten_of_writeText hwrite,
      Members.names_put_of_mem (Members.mem_names_of_find? hfind) _,
      Members.find?_put_self _ _ _, fun other hother => Members.find?_put_of_ne hother _ _,
      call.reply.healRecord_healsInPlace call.withHeaders record⟩

end HttpScenario
