import HttpScenario.Proofs.Scenario.EditOrder
import HttpScenario.Proofs.Verify.PathFaults
import HttpScenario.Scenario.Load

namespace HttpScenario

/-! Edits leave the root of a document as it is: an object stays one, whatever is set in it. So
what is told when edits leave no object of headers never comes up. -/

namespace Json

variable {v w u : Json} {f : Json → Json}

/-- A document whose root outlasts changes: an object keeps its names in their order and may get
others behind them, an array keeps its length, and a scalar does not change. -/
inductive SameRoot : Json → Json → Prop where
  | scalar {v : Json} (h : v.isContainer = false) : SameRoot v v
  | arr {items others : List Json} (h : others.length = items.length) :
      SameRoot (.arr items) (.arr others)
  | obj {members others : Members Json} (h : members.names <+: others.names) :
      SameRoot (.obj members) (.obj others)

namespace SameRoot

theorem refl (v : Json) : v.SameRoot v := by
  cases v with
  | arr items => exact .arr rfl
  | obj members => exact .obj List.prefix_rfl
  | _ => exact .scalar rfl

theorem trans (h : v.SameRoot w) (h' : w.SameRoot u) : v.SameRoot u := by
  cases h with
  | scalar h => exact h'
  | arr h =>
      cases h' with
      | scalar hscalar => cases hscalar
      | arr h' => exact .arr (h'.trans h)
  | obj h =>
      cases h' with
      | scalar hscalar => cases hscalar
      | obj h' => exact .obj (h.trans h')

theorem replaceStep (v : Json) (step : Step) (x : Json) : v.SameRoot (v.replaceStep step x) := by
  cases v with
  | arr items =>
      cases step with
      | key name => exact .refl _
      | index i => exact .arr List.length_set
  | obj members =>
      cases step with
      | key name =>
          apply SameRoot.obj
          rw [Members.names_put]
          exact List.prefix_append _ _
      | index i => exact .refl _
  | _ => exact .scalar rfl

theorem mapItems (f : Json → Json) (v : Json) : v.SameRoot (v.mapItems f) := by
  cases v with
  | arr items => exact .arr (List.length_map f)
  | obj members => exact .refl _
  | _ => exact .scalar rfl

theorem setTarget (v : Json) (target : Target) (x : Json) :
    v.SameRoot (v.setTarget target x) := by
  rw [Json.setTarget]
  split
  · exact .mapItems _ v
  · exact .replaceStep v target.step x

theorem modify (h : ∀ v : Json, v.SameRoot (f v)) (v : Json) (steps : List Step) :
    v.SameRoot (v.modify f steps) := by
  cases steps with
  | nil => exact h v
  | cons step steps =>
      cases hchild : v.step? step with
      | none =>
          rw [modify_of_none hchild]
          exact .refl v
      | some child =>
          rw [modify_of_some hchild]
          exact .replaceStep v step (child.modify f steps)

theorem assigned (v : Json) (path : Path) (x : Json) : v.SameRoot (v.assigned path x) := by
  rw [assigned_eq_modify]
  exact .modify (fun v => .setTarget v path.target x) v path.parents

end SameRoot

end Json

namespace Edits

variable {edits : List (String × Json)} {text : String} {fault : Path.Fault}

def Readable (edits : List (String × Json)) : Prop :=
  ∀ edit ∈ edits, ∃ path, Path.parse edit.1 = .ok path

theorem applyAll_sameRoot (h : Readable edits) (v : Json) :
    ∃ w, applyAll v edits = .ok w ∧ v.SameRoot w := by
  induction edits generalizing v with
  | nil => exact ⟨v, rfl, .refl v⟩
  | cons edit edits ih =>
      obtain ⟨⟨path, hpath⟩, hrest⟩ := List.forall_mem_cons.mp h
      obtain ⟨w, hw, hroot⟩ := ih hrest (v.assigned path edit.2)
      refine ⟨w, ?_, (Json.SameRoot.assigned v path edit.2).trans hroot⟩
      rw [applyAll_cons_of_parse hpath]
      exact hw

theorem applyAll_of_firstFault (h : Path.FirstFault (Members.names edits) text fault) (v : Json) :
    applyAll v edits = .error (.invalid text fault) := by
  induction edits generalizing v with
  | nil => cases h
  | cons edit edits ih =>
      cases h with
      | here hfault =>
          exact applyAll_cons_of_error (Path.parse_of_fault hfault) v edit.2 edits
      | behind hpath hrest =>
          rw [applyAll_cons_of_parse hpath]
          exact ih hrest (v.assigned _ edit.2)

theorem readable_or_firstFault (edits : List (String × Json)) :
    Readable edits ∨ ∃ text fault, Path.FirstFault (Members.names edits) text fault := by
  by_cases h : ∃ text ∈ Members.names edits, ∃ e, Path.parse text = .error e
  · exact .inr (Path.exists_firstFault h)
  · refine .inl fun edit hedit => ?_
    cases hpath : Path.parse edit.1 with
    | error e => exact absurd ⟨edit.1, List.mem_map_of_mem hedit, e, hpath⟩ h
    | ok path => exact ⟨path, rfl⟩

theorem editObject_of_readable (h : Readable edits) (name : String) (field : MapField)
    (members : Members Json) :
    ∃ changed, editObject name field edits members = .ok changed ∧
      members.names <+: changed.names := by
  obtain ⟨w, hw, hroot⟩ := applyAll_sameRoot h (.obj members)
  cases hroot with
  | scalar hscalar => cases hscalar
  | @obj _ changed hnames =>
      refine ⟨changed, ?_, hnames⟩
      rw [editObject, hw]

theorem editObject_of_firstFault (h : Path.FirstFault (Members.names edits) text fault)
    (name : String) (field : MapField) (members : Members Json) :
    editObject name field edits members = .error (.path (.invalid text fault)) := by
  rw [editObject, applyAll_of_firstFault h]

theorem editObject_eq_error_iff {name : String} {field : MapField} {members : Members Json}
    {failure : Failure} :
    editObject name field edits members = .error failure ↔
      ∃ text fault, Path.FirstFault (Members.names edits) text fault ∧
        failure = .path (.invalid text fault) := by
  constructor
  · intro h
    rcases readable_or_firstFault edits with hreadable | ⟨text, fault, hfirst⟩
    · obtain ⟨changed, hok, -⟩ := editObject_of_readable hreadable name field members
      cases hok.symm.trans h
    · cases (editObject_of_firstFault hfirst name field members).symm.trans h
      exact ⟨text, fault, hfirst, rfl⟩
  · rintro ⟨text, fault, hfirst, rfl⟩
    exact editObject_of_firstFault hfirst name field members

end Edits

inductive Failure.OfLoading : Failure → Prop where
  | unreadable (path : String) (fault : FileFault) : OfLoading (.unreadable path fault)
  | json (error : Json.ParseError) : OfLoading (.json error)
  | notObject (path : String) : OfLoading (.scenarioFormat path .notObject)
  | notFound (name path : String) : OfLoading (.scenarioNotFound name path)
  | record (name : String) (fault : Record.Fault) :
      OfLoading (.scenarioFormat name (.record fault))
  | bodyKind (name field : String) : OfLoading (.scenarioFormat name (.bodyKind field))
  | bodyNotJson (name : String) (field : BodyField) (error : Json.ParseError) :
      OfLoading (.scenarioFormat name (.bodyNotJson field error))
  | path (text : String) (fault : Path.Fault) : OfLoading (.path (.invalid text fault))
  | notScalar (name field key : String) : OfLoading (.scenarioFormat name (.notScalar field key))

/-- A result, or a failure that is one of loading. -/
def OnlyLoadFailures {α : Type} : Except Failure α → Prop
  | .ok _ => True
  | .error failure => failure.OfLoading

section Stages

variable {α β : Type} {result : Except Failure α} {name : String}

theorem OnlyLoadFailures.bind {next : α → Except Failure β} (h : OnlyLoadFailures result)
    (hnext : ∀ a, OnlyLoadFailures (next a)) : OnlyLoadFailures (result >>= next) := by
  cases result with
  | error failure => exact h
  | ok a => exact hnext a

theorem OnlyLoadFailures.map (h : OnlyLoadFailures result) (f : α → β) :
    OnlyLoadFailures (result.map f) := by
  cases result with
  | error failure => exact h
  | ok a => trivial

theorem ScenarioFile.record_onlyLoadFailures (files : Files) (path name : String) :
    OnlyLoadFailures (record files path name) := by
  apply OnlyLoadFailures.bind
  · rw [load]
    cases files.readText path with
    | error fault => exact .unreadable path fault
    | ok text =>
        cases hparse : Json.parse text with
        | error e => simpa only [hparse] using .json e
        | ok document =>
            cases document with
            | obj records => simp only [hparse]; trivial
            | _ => simpa only [hparse] using .notObject path
  · intro records
    cases Members.find? name records with
    | none => exact .notFound name path
    | some stored => trivial

theorem resolveBody_onlyLoadFailures (files : Files) (directory name field : String)
    (body : Option Json) : OnlyLoadFailures (resolveBody files directory name field body) := by
  rw [resolveBody.eq_def]
  split
  · trivial
  · trivial
  · split
    · trivial
    · next relative _ =>
        dsimp only
        cases files.readText (joinPath directory relative) with
        | error fault => exact .unreadable _ fault
        | ok content => trivial
  · split
    · trivial
    · exact .bodyKind name field

theorem Loaded.load_onlyLoadFailures (files : Files) (directory file name : String) :
    OnlyLoadFailures (load files directory file name) := by
  apply (ScenarioFile.record_onlyLoadFailures files (joinPath directory file) name).bind
  intro stored
  apply OnlyLoadFailures.bind
  · cases Record.decode stored with
    | error fault => exact .record name fault
    | ok record => trivial
  · intro record
    apply (resolveBody_onlyLoadFailures files directory name _ record.request).bind
    intro request
    apply (resolveBody_onlyLoadFailures files directory name _ record.response).bind
    intro response
    trivial

namespace Edits

variable (edits : List (String × Json)) (name : String)

theorem editBody_onlyLoadFailures (field : BodyField) (body : Option String) :
    OnlyLoadFailures (editBody name field edits body) := by
  rw [editBody]
  split
  · trivial
  · cases Json.parse (body.getD "\x7b\x7d") with
    | error e => exact .bodyNotJson name field e
    | ok document =>
        rcases readable_or_firstFault edits with hreadable | ⟨text, fault, hfirst⟩
        · obtain ⟨w, hw, -⟩ := applyAll_sameRoot hreadable document
          simp only [hw]
          trivial
        · simp only [applyAll_of_firstFault hfirst document]
          exact .path text fault

theorem editObject_onlyLoadFailures (field : MapField) (members : Members Json) :
    OnlyLoadFailures (editObject name field edits members) := by
  cases hresult : editObject name field edits members with
  | ok changed => trivial
  | error failure =>
      obtain ⟨text, fault, -, rfl⟩ := editObject_eq_error_iff.mp hresult
      exact .path text fault

end Edits

theorem addTexts_error {field : String} {lowerKeys : Bool} {texts : Table String}
    {members : Members Json} {fault : FormatFault}
    (h : addTexts lowerKeys field texts members = .error fault) :
    ∃ key, fault = .notScalar field key := by
  induction members generalizing texts with
  | nil => cases h
  | cons member members ih =>
      rw [addTexts] at h
      split at h
      · cases h
        exact ⟨_, rfl⟩
      · exact ih h

theorem textMap_onlyLoadFailures (name field : String) (lowerKeys : Bool) (members : Members Json) :
    OnlyLoadFailures (textMap name field lowerKeys members) := by
  rw [textMap]
  cases htexts : addTexts lowerKeys field ∅ members with
  | ok texts => trivial
  | error fault =>
      obtain ⟨key, rfl⟩ := addTexts_error htexts
      exact .notScalar name field key

namespace Loaded

theorem texts?_onlyLoadFailures (name : String) (field : MapField) (lowerKeys : Bool)
    (members : Option (Members Json)) : OnlyLoadFailures (texts? name field lowerKeys members) := by
  cases members with
  | none => trivial
  | some members => exact (textMap_onlyLoadFailures name field.name lowerKeys members).map some

theorem expectedHeaders_onlyLoadFailures (loaded : Loaded) (edits : List (String × Json)) :
    OnlyLoadFailures (loaded.expectedHeaders edits) := by
  rw [expectedHeaders]
  split
  · next members _ =>
      exact (Edits.editObject_onlyLoadFailures edits loaded.name .responseHeaders members).map some
  · split
    · trivial
    · exact (Edits.editObject_onlyLoadFailures edits loaded.name .responseHeaders []).map some

theorem toTestCase_onlyLoadFailures (loaded : Loaded) (edits : Edits) :
    OnlyLoadFailures (loaded.toTestCase edits) := by
  apply (Edits.editBody_onlyLoadFailures edits.request loaded.name .request loaded.request).bind
  intro requestBody
  apply (Edits.editBody_onlyLoadFailures edits.response loaded.name .response loaded.response).bind
  intro expectedBody
  apply (Edits.editObject_onlyLoadFailures edits.requestHeaders loaded.name .headers _).bind
  intro members
  apply (textMap_onlyLoadFailures loaded.name _ true members).bind
  intro headers
  apply (loaded.expectedHeaders_onlyLoadFailures edits.responseHeaders).bind
  intro expected
  apply (texts?_onlyLoadFailures loaded.name .responseHeaders true expected).bind
  intro expectedHeaders
  apply (texts?_onlyLoadFailures loaded.name .cookies false loaded.record.cookies).bind
  intro cookies
  trivial

end Loaded

theorem TestCase.load_onlyLoadFailures (format : Format) (files : Files)
    (directory file name : String) (edits : Edits) :
    OnlyLoadFailures (load format files directory file name edits) := by
  apply (Loaded.load_onlyLoadFailures files directory file name).bind
  intro loaded
  cases format with
  | plain => exact loaded.toTestCase_onlyLoadFailures edits
  | template => exact (loaded.fill edits).toTestCase_onlyLoadFailures edits

end Stages

/-- Edits whose paths can be read always give a document with the root of the one before. So
editing an object fails only for the first path that cannot be read, and no scenario is ever
refused because its edits leave no object. -/
theorem edits_keep_objects :
    (∀ (v : Json) (edits : List (String × Json)), Edits.Readable edits →
        ∃ w, Edits.applyAll v edits = .ok w ∧ v.SameRoot w) ∧
      (∀ (name : String) (field : MapField) (edits : List (String × Json))
          (members : Members Json) (failure : Failure),
        Edits.editObject name field edits members = .error failure ↔
          ∃ text fault, Path.FirstFault (Members.names edits) text fault ∧
            failure = .path (.invalid text fault)) ∧
      ∀ (format : Format) (files : Files) (directory file name : String) (edits : Edits)
          (scenario : String) (field : MapField),
        TestCase.load format files directory file name edits ≠
          .error (.scenarioFormat scenario (.objectLost field)) := by
  refine ⟨fun v edits hreadable => Edits.applyAll_sameRoot hreadable v,
    fun name field edits members failure => Edits.editObject_eq_error_iff, ?_⟩
  intro format files directory file name edits scenario field hlost
  have hfails := TestCase.load_onlyLoadFailures format files directory file name edits
  rw [hlost] at hfails
  cases hfails

def Edits.itemEdits : List (String × Json) :=
  [("[0].id", .ofNat 7), ("*tag", .str "new"), ("id", .null)]

theorem edits_keep_objects_items :
    Edits.Readable Edits.itemEdits ∧
      (∃ w, Edits.applyAll (.arr [.obj [("id", .ofNat 1)], .obj []]) Edits.itemEdits = .ok w ∧
        (Json.arr [.obj [("id", .ofNat 1)], .obj []]).SameRoot w ∧
        w = .arr [.obj [("id", .ofNat 7), ("tag", .str "new")], .obj [("tag", .str "new")]]) ∧
      Edits.editObject "order" .headers Edits.itemEdits [("Accept", .str "*/*")] =
        .ok [("Accept", .str "*/*"), ("id", .null)] ∧
      Edits.editObject "order" .headers (Edits.itemEdits ++ [("*a.b", .null), ("", .null)]) [] =
        .error (.path (.invalid "*a.b" .earlyWildcard)) := by
  have hreadable : Edits.Readable Edits.itemEdits := by
    simp only [Edits.Readable, Edits.itemEdits, List.forall_mem_cons]
    exact ⟨⟨_, rfl⟩, ⟨_, rfl⟩, ⟨_, rfl⟩, List.forall_mem_nil _⟩
  have hfirst : Path.FirstFault
      (Members.names (Edits.itemEdits ++ [("*a.b", .null), ("", .null)])) "*a.b"
      .earlyWildcard :=
    .behind rfl (.behind rfl (.behind rfl (.here rfl _)))
  obtain ⟨hroot, herror, -⟩ := edits_keep_objects
  obtain ⟨w, hw, hsame⟩ := hroot (.arr [.obj [("id", .ofNat 1)], .obj []]) _ hreadable
  refine ⟨hreadable, ⟨w, hw, hsame, ?_⟩, rfl, ?_⟩
  · exact (Except.ok.inj hw).symm
  · exact (herror "order" .headers _ [] _).mpr ⟨_, _, hfirst, rfl⟩

end HttpScenario
