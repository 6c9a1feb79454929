import HttpScenario.Proofs.Scenario.HealedFile
import HttpScenario.Proofs.Text.Replace
import HttpScenario.Scenario.Load

namespace HttpScenario

namespace Placeholder

/-- No variable has a placeholder in a body, with blanks around its name or without. -/
def Unused (values : Table Json) (body : Option String) : Prop :=
  ∀ text, body = some text → ∀ entry ∈ values.entries,
    ¬ tight entry.1.toList <:+: text.toList ∧ ¬ spaced entry.1.toList <:+: text.toList

variable {values : Table Json} {body : Option String}

theorem fillVariable_of_lacks {name : String} {cs : List Char} (value : Json)
    (htight : ¬ tight name.toList <:+: cs) (hspaced : ¬ spaced name.toList <:+: cs) :
    fillVariable cs name value = cs := by
  rw [fillVariable, Text.replaceAll_of_lacks htight, Text.replaceAll_of_lacks hspaced]

theorem foldl_fillVariable_of_lacks {entries : List (String × Json)} {cs : List Char}
    (h : ∀ entry ∈ entries,
      ¬ tight entry.1.toList <:+: cs ∧ ¬ spaced entry.1.toList <:+: cs) :
    entries.foldl (fun cs entry => fillVariable cs entry.1 entry.2) cs = cs := by
  induction entries with
  | nil => rfl
  | cons entry entries ih =>
      obtain ⟨⟨htight, hspaced⟩, hrest⟩ := List.forall_mem_cons.mp h
      rw [List.foldl_cons, fillVariable_of_lacks entry.2 htight hspaced]
      exact ih hrest

theorem fillBody_of_unused {text : String} (h : Unused values (some text)) :
    fillBody values text = text := by
  rw [fillBody, foldl_fillVariable_of_lacks (h text rfl), String.ofList_toList]

end Placeholder

theorem resolveBody_of_reference {files : Files} {text relative content : String}
    (directory : String) (href : reference? text = some relative)
    (hread : files.readText (joinPath directory relative) = .ok content) (name field : String) :
    resolveBody files directory name field (some (.str text)) =
      .ok (some (Text.trim content)) := by
  simp only [resolveBody, href, hread]

namespace Loaded

theorem fillBody_of_unused {values : Table Json} {body : Option String}
    (h : Placeholder.Unused values body) : fillBody values body = body := by
  rw [fillBody]
  split
  · rfl
  · cases body with
    | none => rfl
    | some text => exact congrArg some (Placeholder.fillBody_of_unused h)

theorem fill_of_unused {loaded : Loaded} {edits : Edits}
    (hrequest : Placeholder.Unused edits.requestVariables loaded.request)
    (hresponse : Placeholder.Unused edits.responseVariables loaded.response) :
    loaded.fill edits = loaded := by
  rw [fill, fillBody_of_unused hrequest, fillBody_of_unused hresponse]

end Loaded

namespace ScenarioFile

def bracedOrders : Members Json :=
  [("order", .obj [("url", .str "/orders"), ("method", .str "post"), ("status", .ofNat 200),
    ("request", .str "{{ sku}} {{skus}}"), ("response", .str "file::reply.txt")])]

theorem bracedOrders_wellFormed : (Json.obj bracedOrders).WellFormed := by
  have hrecord : (Json.obj [("url", .str "/orders"), ("method", .str "post"),
      ("status", .ofNat 200), ("request", .str "{{ sku}} {{skus}}"),
      ("response", .str "file::reply.txt")]).WellFormed := by
    refine .obj (by simp [Members.Distinct, Members.names]) ?_
    simp only [List.forall_mem_cons]
    exact ⟨.str _, .str _, .num ⟨by decide, by decide⟩, .str _, .str _, List.forall_mem_nil _⟩
  refine .obj (by simp [Members.Distinct, Members.names, bracedOrders]) ?_
  simp only [bracedOrders, List.forall_mem_cons]
  exact ⟨hrecord, List.forall_mem_nil _⟩

def bracedTree : Files :=
  ⟨[(["orders.json"], .file (text bracedOrders).toUTF8),
    (["reply.txt"], .file " {{sku }}\n".toUTF8)], []⟩

theorem load_bracedOrders : load bracedTree "orders.json" = .ok bracedOrders := by
  have hlocate : bracedTree.locate "orders.json" = .ok ["orders.json"] := rfl
  exact (load_of_readText (Files.readText_of_file hlocate rfl) bracedOrders_wellFormed).mpr rfl

end ScenarioFile

def Record.bracedOrder : Record where
  url := "/orders"
  method := "post"
  status := 200
  request := some (.str "{{ sku}} {{skus}}")
  response := some (.str "file::reply.txt")

theorem Loaded.load_bracedOrder :
    Loaded.load ScenarioFile.bracedTree "" "orders.json" "order" =
      .ok ⟨"order", "orders.json", Record.bracedOrder, some "{{ sku}} {{skus}}",
        some "{{sku }}"⟩ := by
  have hstored : ScenarioFile.record ScenarioFile.bracedTree "orders.json" "order" = .ok _ :=
    bind_eq_ok.mpr ⟨_, ScenarioFile.load_bracedOrders, rfl⟩
  have hlocate : ScenarioFile.bracedTree.locate "reply.txt" = .ok ["reply.txt"] := rfl
  have hreply : ScenarioFile.bracedTree.readText "reply.txt" = .ok " {{sku }}\n" :=
    Files.readText_of_file hlocate rfl
  have href : reference? "file::reply.txt" = some "reply.txt" := rfl
  have hresponse := resolveBody_of_reference "" href hreply "order" BodyField.response.name
  have hdecode : Record.decode (.obj [("url", .str "/orders"), ("method", .str "post"),
      ("status", .ofNat 200), ("request", .str "{{ sku}} {{skus}}"),
      ("response", .str "file::reply.txt")]) = .ok Record.bracedOrder := rfl
  have hrequest : resolveBody ScenarioFile.bracedTree "" "order" BodyField.request.name
      (some (.str "{{ sku}} {{skus}}")) = .ok (some "{{ sku}} {{skus}}") := rfl
  rw [Loaded.load]
  refine bind_eq_ok.mpr ⟨_, hstored, bind_eq_ok.mpr ⟨Record.bracedOrder, ?_, ?_⟩⟩
  · exact mapError_eq_ok.mpr hdecode
  · exact bind_eq_ok.mpr ⟨_, hrequest, bind_eq_ok.mpr ⟨_, hresponse, rfl⟩⟩

def skuEdits : Edits where
  requestHeaders := [("X-Sku", .str "7")]
  requestVariables := Table.ofList [("", .null), ("sku", .str "x")]
  responseVariables := Table.ofList [("sku", .ofNat 1)]

namespace TestCase

variable {files : Files} {directory file name : String} {edits : Edits}

/-- Scenarios without placeholders of the variables are the same test case, or the same
failure, in both formats. -/
theorem load_template_eq_plain
    (h : ∀ loaded, Loaded.load files directory file name = .ok loaded →
      Placeholder.Unused edits.requestVariables loaded.request ∧
        Placeholder.Unused edits.responseVariables loaded.response) :
    load .template files directory file name edits =
      load .plain files directory file name edits := by
  rw [load, load]
  cases hloaded : Loaded.load files directory file name with
  | error failure => rfl
  | ok loaded =>
      obtain ⟨hrequest, hresponse⟩ := h loaded hloaded
      change (loaded.fill edits).toTestCase edits = loaded.toTestCase edits
      rw [Loaded.fill_of_unused hrequest hresponse]

def bracedOrder : TestCase where
  name := "order"
  url := "/orders"
  method := "post"
  allowRedirects := true
  headers := Table.ofList [("x-sku", "7")]
  cookies := ∅
  requestBody := some "{{ sku}} {{skus}}"
  expectedStatus := 200
  expectedBody := some "{{sku }}"
  expectedHeaders := none
  filePath := "orders.json"
  description := none

theorem load_template_eq_plain_order :
    load .plain ScenarioFile.bracedTree "" "orders.json" "order" skuEdits = .ok bracedOrder ∧
      load .template ScenarioFile.bracedTree "" "orders.json" "order" skuEdits =
        .ok bracedOrder := by
  have hplain : load .plain ScenarioFile.bracedTree "" "orders.json" "order" skuEdits =
      .ok bracedOrder :=
    bind_eq_ok.mpr ⟨_, Loaded.load_bracedOrder, rfl⟩
  have hunused : ∀ loaded,
      Loaded.load ScenarioFile.bracedTree "" "orders.json" "order" = .ok loaded →
      Placeholder.Unused skuEdits.requestVariables loaded.request ∧
        Placeholder.Unused skuEdits.responseVariables loaded.response := by
    intro loaded hloaded
    cases Loaded.load_bracedOrder.symm.trans hloaded
    have hrequest : skuEdits.requestVariables.entries = [("", .null), ("sku", .str "x")] := rfl
    have hresponse : skuEdits.responseVariables.entries = [("sku", .ofNat 1)] := rfl
    constructor
    · rintro text ⟨⟩
      simp only [hrequest, List.forall_mem_cons]
      exact ⟨by decide, by decide, List.forall_mem_nil _⟩
    · rintro text ⟨⟩
      simp only [hresponse, List.forall_mem_cons]
      exact ⟨by decide, List.forall_mem_nil _⟩
  exact ⟨hplain, (load_template_eq_plain hunused).trans hplain⟩

end TestCase

end HttpScenario
