import HttpScenario.Proofs.Json.Denotation
import HttpScenario.Proofs.Scenario.HealCall
import HttpScenario.Proofs.Scenario.HealedFile

namespace HttpScenario

/-! One file is healed again and again, and no healing is lost. What a file holds is the
document that its text denotes, even when that is too deep to be loaded. -/

namespace ScenarioFile

variable {files written : Files} {path : String} {records others : Members Json}

def Holds (files : Files) (path : String) (records : Members Json) : Prop :=
  ∃ content, files.readText path = .ok content ∧ Json.Denotes content (.obj records)

theorem Holds.unique (h : Holds files path records) (hothers : Holds files path others) :
    records = others := by
  obtain ⟨content, hcontent, hdenotes⟩ := h
  obtain ⟨content', hcontent', hdenotes'⟩ := hothers
  cases hcontent.symm.trans hcontent'
  cases hdenotes.unique hdenotes'
  rfl

theorem Holds.wellFormed (h : Holds files path records) : (Json.obj records).WellFormed := by
  obtain ⟨content, -, hdenotes⟩ := h
  exact hdenotes.wellFormed

theorem holds_of_load (h : load files path = .ok records) : Holds files path records := by
  obtain ⟨content, hcontent, hparse⟩ := load_eq_ok.mp h
  exact ⟨content, hcontent, Json.denotes_of_parse hparse⟩

theorem holds_of_writeText (hform : (Json.obj records).WellFormed)
    (hback : (Json.obj records).ReadsBack)
    (h : files.writeText path (text records) = .ok written) : Holds written path records :=
  ⟨text records, Files.readText_of_writeText h, Json.denotes_pretty_line hform hback⟩

theorem load_of_locate {other : String} (h : files.locate other = files.locate path) :
    load files other = .ok records ↔ load files path = .ok records := by
  rw [load_eq_ok, load_eq_ok, Files.readText_of_locate h]

end ScenarioFile

namespace HealCall

def after (call : HealCall) (files : Files) : Files :=
  (call.outcome.rewrite call.withHeaders).left files

def afterAll (calls : List HealCall) (files : Files) : Files :=
  calls.foldl (fun files call => call.after files) files

/-- The calls that succeed when all are made one after the other. -/
def succeeding (files : Files) : List HealCall → List HealCall
  | [] => []
  | call :: calls =>
      match call.outcome.rewrite call.withHeaders files with
      | .ok () healed => call :: succeeding healed calls
      | .error _ left => succeeding left calls

/-- Calls that heal one file. Its numbers and those of the replies are read back as
themselves. -/
structure OnFile (files : Files) (path : String) (calls : List HealCall) : Prop where
  paths : ∀ call ∈ calls, files.locate call.path = files.locate path
  bodies : ∀ call ∈ calls, ∀ body, call.reply.json = .ok body → body.ReadsBack
  records : ∀ records, ScenarioFile.load files path = .ok records →
    (Json.obj records).ReadsBack

variable {files healed : Files} {path : String} {call first second : HealCall}
  {calls others : List HealCall} {records record : Members Json}

theorem after_of_ok (h : call.outcome.heal files call.withHeaders = .ok healed) :
    call.after files = healed :=
  Work.left_of_outcome_ok h

theorem after_of_error {failure : HealFailure}
    (h : call.outcome.heal files call.withHeaders = .error failure) :
    call.after files = files :=
  (call.outcome.rewrite_allOrNothing call.withHeaders).left_of_outcome_error h

theorem succeeding_of_ok (h : call.outcome.heal files call.withHeaders = .ok healed) :
    succeeding files (call :: calls) = call :: succeeding healed calls := by
  obtain ⟨_, hrewrite⟩ := Work.outcome_eq_ok.mp h
  rw [succeeding, hrewrite]

theorem succeeding_of_error {failure : HealFailure}
    (h : call.outcome.heal files call.withHeaders = .error failure) :
    succeeding files (call :: calls) = succeeding files calls := by
  have hrewrite := (call.outcome.rewrite_allOrNothing call.withHeaders).of_outcome_error h
  rw [succeeding, hrewrite]

theorem length_succeeding_le (files : Files) (calls : List HealCall) :
    (succeeding files calls).length ≤ calls.length := by
  induction calls generalizing files with
  | nil => exact Nat.le_refl 0
  | cons call calls ih =>
      cases hheal : call.outcome.heal files call.withHeaders with
      | ok healed =>
          rw [succeeding_of_ok hheal]
          exact Nat.succ_le_succ (ih healed)
      | error failure =>
          rw [succeeding_of_error hheal]
          exact Nat.le_succ_of_le (ih files)

namespace OnFile

theorem subset (h : OnFile files path calls) (hsubset : others ⊆ calls) :
    OnFile files path others :=
  ⟨fun call hcall => h.paths call (hsubset hcall),
    fun call hcall => h.bodies call (hsubset hcall), h.records⟩

theorem writeText_of_heal (h : OnFile files path (call :: calls))
    (hheal : call.outcome.heal files call.withHeaders = .ok healed) :
    ∃ records record, ScenarioFile.load files path = .ok records ∧
      records.find? call.name = some (.obj record) ∧
      files.writeText path (ScenarioFile.text (call.healIn records)) = .ok healed := by
  obtain ⟨records, record, hload, hfind, hwrite⟩ :=
    ScenarioFile.heal_eq_ok.mp (Outcome.heal_eq_ok.mp hheal)
  have hpath := h.paths call List.mem_cons_self
  refine ⟨records, record, (ScenarioFile.load_of_locate hpath).mp hload, hfind, ?_⟩
  rw [healIn_of_find? hfind, ← Files.writeText_of_locate hpath]
  exact hwrite

theorem healIn_readsBack (h : OnFile files path (call :: calls))
    (hload : ScenarioFile.load files path = .ok records) :
    (Json.obj (call.healIn records)).ReadsBack := by
  unfold healIn
  split
  · next hfind =>
      apply ScenarioFile.healed_readsBack (h.records records hload) hfind
      exact fun _ => Reply.storedBody?_readsBack (h.bodies call List.mem_cons_self)
  · exact h.records records hload

theorem holds_healIn (h : OnFile files path (call :: calls))
    (hload : ScenarioFile.load files path = .ok records)
    (hfind : records.find? call.name = some (.obj record))
    (hwrite : files.writeText path (ScenarioFile.text (call.healIn records)) = .ok healed) :
    ScenarioFile.Holds healed path (call.healIn records) := by
  refine ScenarioFile.holds_of_writeText ?_ (h.healIn_readsBack hload) hwrite
  rw [healIn_of_find? hfind]
  exact ScenarioFile.healed_wellFormed (ScenarioFile.wellFormed_of_load hload) hfind _ _

theorem tail (h : OnFile files path (call :: calls)) : OnFile (call.after files) path calls := by
  have hcalls : OnFile files path calls := h.subset (List.subset_cons_self call calls)
  cases hheal : call.outcome.heal files call.withHeaders with
  | error failure =>
      rw [after_of_error hheal]
      exact hcalls
  | ok healed =>
      rw [after_of_ok hheal]
      obtain ⟨records, record, hload, hfind, hwrite⟩ := h.writeText_of_heal hheal
      obtain ⟨location, hlocate, -⟩ := Files.writeText_eq_ok hwrite
      refine ⟨?_, hcalls.bodies, ?_⟩
      · intro other hother
        rw [Files.locate_of_writeText hwrite, hlocate]
        exact Files.locate_of_writeText_of_ok hwrite ((hcalls.paths other hother).trans hlocate)
      · intro loaded hloaded
        have hholds := h.holds_healIn hload hfind hwrite
        cases (ScenarioFile.holds_of_load hloaded).unique hholds
        exact h.healIn_readsBack hload

theorem drop (h : OnFile files path (calls ++ others)) :
    OnFile (afterAll calls files) path others := by
  induction calls generalizing files with
  | nil => exact h
  | cons call calls ih => exact ih h.tail

theorem holds_afterAll (h : OnFile files path calls)
    (hholds : ScenarioFile.Holds files path records) :
    ScenarioFile.Holds (afterAll calls files) path (healInAll (succeeding files calls) records) ∧
      ∀ call ∈ succeeding files calls,
        ∃ record, records.find? call.name = some (.obj record) := by
  induction calls generalizing files records with
  | nil => exact ⟨hholds, nofun⟩
  | cons call calls ih =>
      have hnext : afterAll (call :: calls) files = afterAll calls (call.after files) := rfl
      have htail := h.tail
      rw [hnext]
      cases hheal : call.outcome.heal files call.withHeaders with
      | error failure =>
          rw [after_of_error hheal] at htail ⊢
          rw [succeeding_of_error hheal]
          exact ih htail hholds
      | ok healed =>
          rw [after_of_ok hheal] at htail ⊢
          rw [succeeding_of_ok hheal]
          obtain ⟨loaded, record, hload, hfind, hwrite⟩ := h.writeText_of_heal hheal
          cases hholds.unique (ScenarioFile.holds_of_load hload)
          obtain ⟨hrest, hrecords⟩ := ih htail (h.holds_healIn hload hfind hwrite)
          refine ⟨hrest, List.forall_mem_cons.mpr ⟨⟨record, hfind⟩, ?_⟩⟩
          intro other hother
          obtain ⟨record', hfind'⟩ := hrecords other hother
          by_cases hname : other.name = call.name
          · exact ⟨record, hname ▸ hfind⟩
          · rw [find?_healIn_of_ne hname] at hfind'
            exact ⟨record', hfind'⟩

theorem afterAll_of_not_loaded (h : OnFile files path calls)
    (hload : ∀ records, ScenarioFile.load files path ≠ .ok records) :
    afterAll calls files = files := by
  induction calls with
  | nil => rfl
  | cons call calls ih =>
      have hnext : afterAll (call :: calls) files = afterAll calls (call.after files) := rfl
      cases hheal : call.outcome.heal files call.withHeaders with
      | error failure =>
          rw [hnext, after_of_error hheal]
          exact ih (h.subset (List.subset_cons_self call calls))
      | ok healed =>
          obtain ⟨records, -, hloaded, -⟩ := h.writeText_of_heal hheal
          exact absurd hloaded (hload records)

theorem writeText_of_both (h : OnFile files path [first, second])
    (hboth : succeeding files [first, second] = [first, second]) :
    ∃ records record, ScenarioFile.load files path = .ok records ∧
      records.find? first.name = some (.obj record) ∧
      files.writeText path (ScenarioFile.text (second.healIn (first.healIn records))) =
        .ok (afterAll [first, second] files) := by
  cases hfirst : first.outcome.heal files first.withHeaders with
  | error failure =>
      rw [succeeding_of_error hfirst] at hboth
      have hle := length_succeeding_le files [second]
      rw [hboth] at hle
      exact absurd hle (by simp)
  | ok healed =>
      rw [succeeding_of_ok hfirst] at hboth
      have htail := h.tail
      rw [after_of_ok hfirst] at htail
      cases hsecond : second.outcome.heal healed second.withHeaders with
      | error failure =>
          rw [succeeding_of_error hsecond] at hboth
          cases hboth
      | ok again =>
          have hafter : afterAll [first, second] files = again := by
            rw [afterAll, List.foldl_cons, after_of_ok hfirst]
            exact after_of_ok hsecond
          obtain ⟨records, record, hload, hfind, hwrite⟩ := h.writeText_of_heal hfirst
          obtain ⟨loaded, -, hloaded, -, hwrite'⟩ := htail.writeText_of_heal hsecond
          have hholds := h.holds_healIn hload hfind hwrite
          cases (ScenarioFile.holds_of_load hloaded).unique hholds
          rw [hafter]
          exact ⟨records, record, hload, hfind, Files.writeText_writeText hwrite hwrite'⟩

theorem afterAll_swap (h : OnFile files path [first, second]) (hne : first.name ≠ second.name)
    (hboth : succeeding files [first, second] = [first, second])
    (hswapped : succeeding files [second, first] = [second, first]) :
    afterAll [first, second] files = afterAll [second, first] files := by
  have h' : OnFile files path [second, first] := h.subset (by simp)
  obtain ⟨records, record, hload, hfirst, hwrite⟩ := h.writeText_of_both hboth
  obtain ⟨records', other, hload', hsecond, hwrite'⟩ := h'.writeText_of_both hswapped
  cases hload.symm.trans hload'
  rw [healIn_comm hne hfirst hsecond] at hwrite
  exact Except.ok.inj (hwrite.symm.trans hwrite')

end OnFile

/-- Over a run of healings the records stay, in their order. One that no successful call
names is as before; another one shows the last successful call of its name, the headers of
the last one that brings headers, and otherwise what it held before. Calls of different
names that succeed in either order may be swapped, and a file that cannot be loaded stays. -/
theorem no_update_lost (h : OnFile files path calls) :
    (∀ records, ScenarioFile.Holds files path records →
      ∃ healed, ScenarioFile.Holds (afterAll calls files) path healed ∧
        (Json.obj healed).WellFormed ∧ healed.names = records.names ∧
        (∀ name, named name (succeeding files calls) = [] →
          healed.find? name = records.find? name) ∧
        ∀ name last, (named name (succeeding files calls)).getLast? = some last →
          ∃ record settled, records.find? name = some (.obj record) ∧
            healed.find? name = some (.obj settled) ∧
            Settled last (lastWithHeaders? (named name (succeeding files calls)))
              record settled) ∧
      ((∀ records, ScenarioFile.load files path ≠ .ok records) →
        afterAll calls files = files) ∧
      ∀ before first second rest, calls = before ++ first :: second :: rest →
        first.name ≠ second.name →
        succeeding (afterAll before files) [first, second] = [first, second] →
        succeeding (afterAll before files) [second, first] = [second, first] →
          afterAll calls files = afterAll (before ++ second :: first :: rest) files := by
  refine ⟨?_, h.afterAll_of_not_loaded, ?_⟩
  · intro records hholds
    obtain ⟨hhealed, hrecords⟩ := h.holds_afterAll hholds
    refine ⟨_, hhealed, hhealed.wellFormed, names_healInAll _ _, ?_, ?_⟩
    · intro name hnone
      rw [find?_healInAll, hnone, settle_nil, Option.map_id]
      rfl
    · intro name last hlast
      have hmem : last ∈ named name (succeeding files calls) := List.mem_of_getLast? hlast
      obtain ⟨hsucceeds, hname⟩ := List.mem_filter.mp hmem
      obtain ⟨record, hfind⟩ := hrecords last hsucceeds
      rw [of_decide_eq_true hname] at hfind
      refine ⟨record, _, hfind, ?_, healAll_settled hlast record⟩
      rw [find?_healInAll, hfind]
      rfl
  · rintro before first second rest rfl hne hboth hswapped
    have hpair : OnFile (afterAll before files) path [first, second] :=
      h.drop.subset (by simp)
    have hswap := hpair.afterAll_swap hne hboth hswapped
    have hsplit : ∀ one other, afterAll (before ++ one :: other :: rest) files =
        afterAll rest (afterAll [one, other] (afterAll before files)) := by
      intro one other
      simp only [afterAll, List.foldl_append, List.foldl_cons, List.foldl_nil]
    rw [hsplit, hsplit, hswap]

def ofReply (name : String) (reply : Reply) (withHeaders : Bool) : HealCall where
  outcome :=
    { reply
      testCase :=
        { name, url := "/orders", method := "get", allowRedirects := true, headers := ∅,
          cookies := ∅, requestBody := none, expectedStatus := 200, expectedBody := none,
          expectedHeaders := none, filePath := "orders.json", description := none } }
  withHeaders

def readyReply : Reply where
  status := 201
  headers := Table.ofList [("x-id", "7")]
  text := "ready"

def takenReply : Reply where
  status := 409
  text := "taken"

def orderCalls : List HealCall :=
  [ofReply "order" readyReply true, ofReply "invoice" readyReply true,
    ofReply "order" takenReply false]

theorem orderCalls_onFile : OnFile ScenarioFile.ordersTree "orders.json" orderCalls := by
  refine ⟨?_, ?_, ?_⟩
  · simp only [orderCalls, List.forall_mem_cons]
    exact ⟨rfl, rfl, rfl, List.forall_mem_nil _⟩
  · simp only [orderCalls, List.forall_mem_cons]
    exact ⟨nofun, nofun, nofun, List.forall_mem_nil _⟩
  · intro records hload
    cases ScenarioFile.load_orders.symm.trans hload
    exact ScenarioFile.orders_readsBack

theorem succeeding_orderCalls : succeeding ScenarioFile.ordersTree orderCalls =
    [ofReply "order" readyReply true, ofReply "order" takenReply false] := by
  decide +kernel

theorem no_update_lost_orders :
    ∃ healed settled : Members Json,
      ScenarioFile.Holds (afterAll orderCalls ScenarioFile.ordersTree) "orders.json" healed ∧
        healed.names = ["order"] ∧ healed.find? "order" = some (.obj settled) ∧
        settled.find? "status" = some (.ofNat 409) ∧
        settled.find? "response" = some (.str "taken") ∧
        settled.find? "response_headers" = some (.obj [("x-id", .str "7")]) ∧
        settled.find? "url" = some (.str "/orders") := by
  obtain ⟨healed, hholds, -, hnames, -, hsettled⟩ := (no_update_lost orderCalls_onFile).1
    ScenarioFile.orders (ScenarioFile.holds_of_load ScenarioFile.load_orders)
  rw [succeeding_orderCalls] at hsettled
  obtain ⟨record, settled, hrecord, hfind, hlast⟩ :=
    hsettled "order" (ofReply "order" takenReply false) (by decide +kernel)
  cases (show ScenarioFile.orders.find? "order" = _ from rfl).symm.trans hrecord
  refine ⟨healed, settled, hholds, hnames, hfind, hlast.status,
    Reply.storedAs_iff.mp hlast.response, ?_, ?_⟩
  · have hheaders := hlast.responseHeaders
    rw [show lastWithHeaders? _ = some (ofReply "order" readyReply true) by decide +kernel]
      at hheaders
    exact hheaders
  · exact hlast.others "url" (by decide)

end HealCall

end HttpScenario
