import HttpScenario.Proofs.Files
import HttpScenario.Proofs.Scenario.HealedRecord
import HttpScenario.Proofs.Work
import HttpScenario.Scenario.File

namespace HttpScenario

/-! A healed file differs from the file before in the expectations of one record. It
can be loaded unless the body that it now holds nests too deep below the record. -/

namespace ScenarioFile

variable {files written : Files} {path name : String} {reply : Reply} {withHeaders : Bool}
  {records record healed : Members Json}

theorem load_eq_ok :
    load files path = .ok records ↔
      ∃ content, files.readText path = .ok content ∧
        Json.parse content = .ok (.obj records) := by
  rw [load]
  cases files.readText path with
  | error fault => simp
  | ok content =>
      cases hparse : Json.parse content with
      | error e => simp [hparse]
      | ok v =>
          cases v with
          | obj members => simp [hparse]
          | _ => simp [hparse]

theorem wellFormed_of_load (h : load files path = .ok records) :
    (Json.obj records).WellFormed := by
  obtain ⟨content, -, hparse⟩ := load_eq_ok.mp h
  exact Json.wellFormed_of_parse hparse

theorem depth_le_of_load (h : load files path = .ok records) :
    (Json.obj records).depth ≤ Json.depthLimit := by
  obtain ⟨content, -, hparse⟩ := load_eq_ok.mp h
  exact Json.depth_le_of_parse hparse

theorem readForHealing_eq_ok :
    readForHealing files path = .ok records ↔ load files path = .ok records := by
  rw [load_eq_ok, readForHealing]
  cases files.readText path with
  | error fault => simp
  | ok content =>
      cases hparse : Json.parse content with
      | error e => simp [hparse]
      | ok v =>
          cases v with
          | obj members => simp [hparse]
          | _ => simp [hparse]

theorem healRecords_eq_ok :
    healRecords name reply withHeaders records = .ok healed ↔
      ∃ record, records.find? name = some (.obj record) ∧
        records.put name (.obj (reply.healRecord withHeaders record)) = healed := by
  rw [healRecords]
  cases hfind : records.find? name with
  | none => simp
  | some v =>
      cases v with
      | obj record => simp
      | _ => simp

theorem rewrite_allOrNothing (path name : String) (reply : Reply) (withHeaders : Bool) :
    (rewrite path name reply withHeaders).AllOrNothing :=
  .read (readForHealing · path) fun _ => .ofExcept _ fun _ => .adaptExcept (.writeText _ _) _

theorem heal_eq (files : Files) (path name : String) (reply : Reply) (withHeaders : Bool) :
    heal files path name reply withHeaders =
      (do
        let records ← readForHealing files path
        let healed ← healRecords name reply withHeaders records
        (files.writeText path (text healed)).mapError .unwritable) := by
  rw [heal, rewrite, Work.outcome_read (readForHealing · path)]
  simp only [Work.outcome_ofExcept, Work.outcome_adaptExcept, Work.outcome_writeText]

theorem heal_eq_ok :
    heal files path name reply withHeaders = .ok written ↔
      ∃ records record, load files path = .ok records ∧
        records.find? name = some (.obj record) ∧
        files.writeText path
          (text (records.put name (.obj (reply.healRecord withHeaders record)))) =
            .ok written := by
  simp only [heal_eq, bind_eq_ok, mapError_eq_ok, readForHealing_eq_ok, healRecords_eq_ok]
  constructor
  · rintro ⟨records, hload, healed, ⟨record, hfind, rfl⟩, hwrite⟩
    exact ⟨records, record, hload, hfind, hwrite⟩
  · rintro ⟨records, record, hload, hfind, hwrite⟩
    exact ⟨records, hload, _, ⟨record, hfind, rfl⟩, hwrite⟩

theorem load_of_readText (h : files.readText path = .ok (text records))
    (hform : (Json.obj records).WellFormed) :
    load files path = .ok healed ↔
      (Json.obj records).readWithin? Json.depthLimit = some (.obj healed) := by
  rw [load_eq_ok, h, ← Json.parse_pretty_line hform, toOption_eq_some]
  constructor
  · rintro ⟨content, hcontent, hparse⟩
    cases hcontent
    exact hparse
  · exact fun hparse => ⟨_, rfl, hparse⟩

theorem load_of_writeText (h : files.writeText path (text records) = .ok written)
    (hform : (Json.obj records).WellFormed) :
    load written path = .ok healed ↔
      (Json.obj records).readWithin? Json.depthLimit = some (.obj healed) :=
  load_of_readText (Files.readText_of_writeText h) hform

theorem load_of_writeText_deep (h : files.writeText path (text records) = .ok written)
    (hform : (Json.obj records).WellFormed) (hdeep : Json.depthLimit < (Json.obj records).depth) :
    ∃ e, load written path = .error (.json e) := by
  have hread := Files.readText_of_writeText h
  have hparse := Json.parse_pretty_line hform
  rw [Json.readWithin?, if_neg (Nat.not_le_of_gt hdeep)] at hparse
  cases hresult : Json.parse (text records) with
  | error e =>
      refine ⟨e, ?_⟩
      rw [load, hread]
      simp only [hresult]
  | ok v =>
      rw [← text, hresult] at hparse
      cases hparse

/-- The deepest body that is not too deep in the record of a scenario. -/
def bodyDepthLimit : Nat := 125

theorem healed_wellFormed (hrecords : (Json.obj records).WellFormed)
    (hfind : records.find? name = some (.obj record)) (reply : Reply) (withHeaders : Bool) :
    (Json.obj (records.put name (.obj (reply.healRecord withHeaders record)))).WellFormed :=
  hrecords.put name (Reply.healRecord_wellFormed (hrecords.find? hfind) reply withHeaders)

theorem healed_readsBack (hrecords : (Json.obj records).ReadsBack)
    (hfind : records.find? name = some (.obj record)) {reply : Reply}
    (hbody : ∀ body, reply.storedBody? = some body → body.ReadsBack) (withHeaders : Bool) :
    (Json.obj (records.put name (.obj (reply.healRecord withHeaders record)))).ReadsBack := by
  rw [Json.readsBack_obj] at hrecords ⊢
  exact Members.forall_put hrecords
    (Reply.healRecord_readsBack (hrecords _ (Members.mem_of_find? hfind)) hbody withHeaders)

theorem healed_depth_le (hrecords : (Json.obj records).depth ≤ Json.depthLimit)
    (hfind : records.find? name = some (.obj record)) (reply : Reply) (withHeaders : Bool) :
    (Json.obj (records.put name (.obj (reply.healRecord withHeaders record)))).depth ≤
        Json.depthLimit ↔
      ∀ body, reply.storedBody? = some body → body.depth ≤ bodyDepthLimit := by
  have hmembers : ∀ member ∈ records, member.2.depth ≤ 126 := Json.depth_obj_le.mp hrecords
  have hrecord : (Json.obj record).depth ≤ 126 := hmembers _ (Members.mem_of_find? hfind)
  have hhealed : (Json.obj (reply.healRecord withHeaders record)).depth ≤ 126 ↔
      ∀ body, reply.storedBody? = some body → body.depth ≤ bodyDepthLimit :=
    Reply.healRecord_depth_le hrecord reply withHeaders
  rw [← hhealed]
  constructor
  · intro hdepth
    have hall : ∀ member ∈ records.put name (.obj (reply.healRecord withHeaders record)),
        member.2.depth ≤ 126 := Json.depth_obj_le.mp hdepth
    exact hall _ (Members.mem_of_find? (Members.find?_put_self _ _ _))
  · intro hdepth
    have hall : ∀ member ∈ records.put name (.obj (reply.healRecord withHeaders record)),
        member.2.depth ≤ 126 := Members.forall_put hmembers hdepth
    exact Json.depth_obj_le.mpr hall

/-- A healed file holds the records that it held, with the expectations of one of them
healed and all else as it was. It is loaded as exactly that when the reply, if it is said
to be JSON, does not nest too deep for its place below the record and the file; when it
does, the file is no document any more. -/
theorem load_after_heal (h : heal files path name reply withHeaders = .ok written)
    (hrecords : ∀ records, load files path = .ok records → (Json.obj records).ReadsBack)
    (hbody : ∀ body, reply.json = .ok body → body.ReadsBack) :
    ∃ records record healed after,
      load files path = .ok records ∧ records.find? name = some (.obj record) ∧
        reply.Heals withHeaders record healed ∧
        after.find? name = some (.obj healed) ∧ after.names = records.names ∧
        (∀ other, other ≠ name → after.find? other = records.find? other) ∧
        written.readText path = .ok (text after) ∧
        (load written path = .ok after ↔
          ∀ body, reply.isJson = true → reply.json = .ok body → body.depth ≤ bodyDepthLimit) ∧
        ((∃ body, reply.isJson = true ∧ reply.json = .ok body ∧ bodyDepthLimit < body.depth) →
          ∃ e, load written path = .error (.json e)) := by
  obtain ⟨records, record, hload, hfind, hwrite⟩ := heal_eq_ok.mp h
  have hform := healed_wellFormed (wellFormed_of_load hload) hfind reply withHeaders
  have hback := healed_readsBack (hrecords records hload) hfind
    (fun _ => Reply.storedBody?_readsBack hbody) withHeaders
  have hdepth := healed_depth_le (depth_le_of_load hload) hfind reply withHeaders
  rw [Reply.storedBody?_depth_le] at hdepth
  refine ⟨records, record, _, _, hload, hfind, reply.healRecord_heals withHeaders record,
    Members.find?_put_self _ _ _, Members.names_put_of_mem (Members.mem_names_of_find? hfind) _,
    fun other hother => Members.find?_put_of_ne hother _ _,
    Files.readText_of_writeText hwrite, ?_, ?_⟩
  · rw [load_of_writeText hwrite hform, ← hdepth, Json.readWithin?]
    constructor
    · intro hread
      by_contra hdeep
      rw [if_neg hdeep] at hread
      cases hread
    · intro hle
      rw [if_pos hle]
      exact hback
  · rintro ⟨body, hsaid, hjson, hdeep⟩
    refine load_of_writeText_deep hwrite hform (Nat.lt_of_not_le fun hle => ?_)
    exact Nat.not_le_of_gt hdeep (hdepth.mp hle body hsaid hjson)

end ScenarioFile

namespace Outcome

variable {files written : Files} {outcome : Outcome} {withHeaders : Bool}

theorem rewrite_allOrNothing (outcome : Outcome) (withHeaders : Bool) :
    (outcome.rewrite withHeaders).AllOrNothing :=
  (ScenarioFile.rewrite_allOrNothing _ _ _ _).adaptExcept _

theorem heal_eq (files : Files) (outcome : Outcome) (withHeaders : Bool) :
    outcome.heal files withHeaders =
      (ScenarioFile.heal files outcome.testCase.filePath outcome.testCase.name outcome.reply
        withHeaders).mapError (⟨outcome.testCase.filePath, ·⟩) :=
  Work.outcome_adaptExcept _ _ files

theorem heal_eq_ok :
    outcome.heal files withHeaders = .ok written ↔
      ScenarioFile.heal files outcome.testCase.filePath outcome.testCase.name outcome.reply
        withHeaders = .ok written := by
  rw [heal_eq, mapError_eq_ok]

theorem heal_of_fault {fault : HealFault}
    (h : ScenarioFile.heal files outcome.testCase.filePath outcome.testCase.name outcome.reply
      withHeaders = .error fault) :
    outcome.heal files withHeaders = .error ⟨outcome.testCase.filePath, fault⟩ := by
  rw [heal_eq, h]
  rfl

end Outcome

namespace Json

def nestedArrays : Nat → Json
  | 0 => .arr []
  | n + 1 => .arr [nestedArrays n]

theorem depth_nestedArrays (n : Nat) : (nestedArrays n).depth = n + 1 := by
  induction n with
  | zero => rfl
  | succ n ih => simp [nestedArrays, depth, depthItems, ih]

theorem nestedArrays_wellFormed (n : Nat) : (nestedArrays n).WellFormed := by
  induction n with
  | zero => exact .arr nofun
  | succ n ih =>
      refine .arr fun item hitem => ?_
      rw [List.mem_singleton.mp hitem]
      exact ih

theorem nestedArrays_readsBack (n : Nat) : (nestedArrays n).ReadsBack := by
  induction n with
  | zero => rfl
  | succ n ih =>
      refine readsBack_arr.mpr fun item hitem => ?_
      rw [List.mem_singleton.mp hitem]
      exact ih

end Json

namespace ScenarioFile

def orders : Members Json :=
  [("order", .obj [("url", .str "/orders"), ("method", .str "get"), ("status", .ofNat 200)])]

theorem orders_wellFormed : (Json.obj orders).WellFormed := by
  have hrecord : (Json.obj [("url", .str "/orders"), ("method", .str "get"),
      ("status", .ofNat 200)]).WellFormed := by
    refine .obj (by simp [Members.Distinct, Members.names]) ?_
    simp only [List.forall_mem_cons]
    exact ⟨.str _, .str _, .num ⟨by decide, by decide⟩, List.forall_mem_nil _⟩
  refine .obj (by simp [Members.Distinct, Members.names, orders]) ?_
  simp only [orders, List.forall_mem_cons]
  exact ⟨hrecord, List.forall_mem_nil _⟩

theorem orders_readsBack : (Json.obj orders).ReadsBack := rfl

def ordersTree : Files := ⟨[(["orders.json"], .file (text orders).toUTF8)], []⟩

theorem locate_orders : ordersTree.locate "orders.json" = .ok ["orders.json"] := rfl

theorem load_orders : load ordersTree "orders.json" = .ok orders :=
  (load_of_readText (Files.readText_of_file locate_orders rfl) orders_wellFormed).mpr rfl

/-- A reply that is JSON and nests one deeper than its place in a record leaves. -/
def deepReply : Reply where
  status := 200
  headers := Table.ofList [("content-type", "application/json")]
  text := (Json.nestedArrays 125).compact

theorem json_deepReply : deepReply.json = .ok (Json.nestedArrays 125) :=
  Json.parse_compact_eq (Json.nestedArrays_wellFormed _)
    (by rw [Json.depth_nestedArrays]; decide) (Json.nestedArrays_readsBack _)

theorem load_after_heal_deep :
    ∃ written, heal ordersTree "orders.json" "order" deepReply false = .ok written ∧
      ∃ e, load written "orders.json" = .error (.json e) := by
  have hheal : heal ordersTree "orders.json" "order" deepReply false = .ok _ :=
    heal_eq_ok.mpr ⟨orders, _, load_orders, rfl, rfl⟩
  have hrecords : ∀ records, load ordersTree "orders.json" = .ok records →
      (Json.obj records).ReadsBack := by
    intro records hload
    cases load_orders.symm.trans hload
    exact orders_readsBack
  have hbody : ∀ body, deepReply.json = .ok body → body.ReadsBack := by
    intro body hjson
    cases json_deepReply.symm.trans hjson
    exact Json.nestedArrays_readsBack _
  obtain ⟨_, _, _, _, _, _, _, _, _, _, _, _, hdeep⟩ :=
    load_after_heal hheal hrecords hbody
  refine ⟨_, hheal, hdeep ⟨Json.nestedArrays 125, by decide, json_deepReply, ?_⟩⟩
  rw [Json.depth_nestedArrays]
  decide

end ScenarioFile

end HttpScenario
