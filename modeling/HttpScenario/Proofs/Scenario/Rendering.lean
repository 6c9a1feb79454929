import HttpScenario.Proofs.Scenario.Slots
import HttpScenario.Proofs.Table
import Mathlib.Data.List.Chain

namespace HttpScenario

namespace Placeholder

/-! The values of a body are put in one after the other, so the pass of a variable also reads
what was put in before it. They are put in as they are if no pass comes upon its slot there. -/

def passes (values : Table Json) : List (Slot × List Char) :=
  values.entries.flatMap fun entry =>
    [(⟨entry.1, false⟩, entry.2.plainText.toList), (⟨entry.1, true⟩, entry.2.plainText.toList)]

def runPasses (passes : List (Slot × List Char)) (text : List Char) : List Char :=
  passes.foldl (fun text pass => Text.replaceAll pass.1.mark pass.2 text) text

def Piece.fillAll (passes : List (Slot × List Char)) (piece : Piece) : Piece :=
  passes.foldl (fun piece pass => piece.fill pass.1 pass.2) piece

def fillSlots (passes : List (Slot × List Char)) (pieces : List Piece) : List Piece :=
  pieces.map (Piece.fillAll passes)

theorem fillSlots_cons (pass : Slot × List Char) (passes : List (Slot × List Char))
    (pieces : List Piece) :
    fillSlots (pass :: passes) pieces =
      fillSlots passes (pieces.map (Piece.fill pass.1 pass.2)) := by
  rw [fillSlots, fillSlots, List.map_map]
  rfl

theorem fillSlots_nil (pieces : List Piece) : fillSlots [] pieces = pieces := List.map_id pieces

/-- When a pass comes, its slot is in no run of what was there or was put in before, unless it
is put in for itself. -/
def Undisturbed : List (Slot × List Char) → List Piece → Prop
  | [], _ => True
  | (slot, new) :: passes, pieces =>
      (new = slot.mark ∨ RunsFree slot.mark [] pieces) ∧
        Undisturbed passes (pieces.map (Piece.fill slot new))

theorem fillBody_eq_runPasses (values : Table Json) (text : String) :
    fillBody values text = String.ofList (runPasses (passes values) text.toList) := by
  rw [fillBody, runPasses, passes, List.foldl_flatMap]
  rfl

section Passes

variable {passes : List (Slot × List Char)} {pieces : List Piece}

theorem plainSlots_map_fill (h : PlainSlots pieces) (slot : Slot) (new : List Char) :
    PlainSlots (pieces.map (Piece.fill slot new)) := by
  intro other hother
  obtain ⟨piece, hpiece, hfill⟩ := List.mem_map.mp hother
  cases piece with
  | run cs => cases hfill
  | slot found =>
      rw [Piece.fill] at hfill
      split at hfill
      · cases hfill
      · cases hfill
        exact h other hpiece

theorem undisturbed_iff (hpasses : ∀ pass ∈ passes, Plain pass.1.name) (h : PlainSlots pieces) :
    Undisturbed passes pieces ↔ ∀ done, done <+: passes →
      runPasses done (source pieces) = source (fillSlots done pieces) := by
  induction passes generalizing pieces with
  | nil =>
      refine ⟨?_, fun _ => trivial⟩
      intro _ done hdone
      rw [List.prefix_nil.mp hdone, fillSlots_nil]
      rfl
  | cons pass passes ih =>
      obtain ⟨slot, new⟩ := pass
      obtain ⟨hslot, hpasses⟩ := List.forall_mem_cons.mp hpasses
      have hstep := replaceAll_source_eq_iff hslot h new []
      rw [List.nil_append, List.nil_append] at hstep
      rw [Undisturbed, ← hstep, ih hpasses (plainSlots_map_fill h slot new)]
      constructor
      · intro ⟨hfirst, hrest⟩ done hdone
        rcases List.prefix_cons_iff.mp hdone with rfl | ⟨later, rfl, hlater⟩
        · rw [fillSlots_nil]
          rfl
        · rw [runPasses, List.foldl_cons, hfirst, fillSlots_cons]
          exact hrest later hlater
      · intro hall
        have hfirst : Text.replaceAll slot.mark new (source pieces) =
            source (pieces.map (Piece.fill slot new)) :=
          hall [(slot, new)] (by simp)
        refine ⟨hfirst, fun done hdone => ?_⟩
        have hlast := hall ((slot, new) :: done) (by simpa using hdone)
        rwa [runPasses, List.foldl_cons, hfirst, fillSlots_cons] at hlast

end Passes

def Piece.shown (values : Table Json) : Piece → List Char
  | .run cs => cs
  | .slot other =>
      ((values.find? other.name).map fun value => value.plainText.toList).getD other.mark

def shown (values : Table Json) (pieces : List Piece) : List Char :=
  pieces.flatMap (Piece.shown values)

section Shown

variable {values : Table Json} {pieces : List Piece}

theorem lookup_passes (values : Table Json) (slot : Slot) :
    (passes values).lookup slot =
      (values.find? slot.name).map fun value => value.plainText.toList := by
  obtain ⟨name, blanks⟩ := slot
  rw [passes, Table.find?]
  induction values.entries with
  | nil => rfl
  | cons entry entries ih =>
      rw [List.flatMap_cons, List.cons_append, List.cons_append, List.nil_append,
        List.find?_cons]
      by_cases hname : entry.1 = name
      · subst hname
        rw [beq_self_eq_true]
        cases blanks with
        | false => exact List.lookup_cons_self
        | true =>
            rw [List.lookup_cons, List.lookup_cons_self]
            split <;> rfl
      · have hslot : ∀ b, ((⟨name, blanks⟩ : Slot) == ⟨entry.1, b⟩) = false := by
          intro b
          rw [beq_eq_false_iff_ne]
          exact fun heq => hname (congrArg Slot.name heq).symm
        rw [List.lookup_cons, hslot, List.lookup_cons, hslot, beq_false_of_ne hname]
        exact ih

theorem Piece.fillAll_run (passes : List (Slot × List Char)) (cs : List Char) :
    fillAll passes (.run cs) = .run cs := by
  induction passes with
  | nil => rfl
  | cons pass passes ih => exact ih

theorem Piece.text_fillAll_slot (passes : List (Slot × List Char)) (slot : Slot) :
    (fillAll passes (.slot slot)).text = (passes.lookup slot).getD slot.mark := by
  induction passes with
  | nil => rfl
  | cons pass passes ih =>
      rw [fillAll, List.foldl_cons, fill, List.lookup_cons, ← fillAll]
      by_cases h : slot = pass.1
      · rw [if_pos h, beq_iff_eq.mpr h, fillAll_run]
        rfl
      · rw [if_neg h, beq_false_of_ne h]
        exact ih

theorem source_fillSlots (values : Table Json) (pieces : List Piece) :
    source (fillSlots (passes values) pieces) = shown values pieces := by
  have hpiece : ∀ piece : Piece, (piece.fillAll (passes values)).text = piece.shown values := by
    intro piece
    cases piece with
    | run cs => rw [Piece.fillAll_run, Piece.text, Piece.shown]
    | slot slot => rw [Piece.text_fillAll_slot, lookup_passes, Piece.shown]
  rw [source, fillSlots, List.flatMap_map, shown, funext hpiece]

theorem exists_of_mem_passes {pass : Slot × List Char} (h : pass ∈ passes values) :
    ∃ entry ∈ values.entries,
      pass.1.name = entry.1 ∧ pass.2 = entry.2.plainText.toList := by
  obtain ⟨entry, hentry, hpass⟩ := List.mem_flatMap.mp h
  rw [List.mem_pair] at hpass
  rcases hpass with rfl | rfl
  · exact ⟨entry, hentry, rfl, rfl⟩
  · exact ⟨entry, hentry, rfl, rfl⟩

theorem plain_of_mem_passes (hvalues : ∀ entry ∈ values.entries, Plain entry.1) :
    ∀ pass ∈ passes values, Plain pass.1.name := by
  intro pass hpass
  obtain ⟨entry, hentry, hname, -⟩ := exists_of_mem_passes hpass
  exact hname ▸ hvalues entry hentry

theorem fillBody_source (hvalues : ∀ entry ∈ values.entries, Plain entry.1)
    (h : PlainSlots pieces) (hundisturbed : Undisturbed (passes values) pieces) :
    fillBody values (String.ofList (source pieces)) = String.ofList (shown values pieces) := by
  have hfilled := (undisturbed_iff (plain_of_mem_passes hvalues) h).mp hundisturbed _
    (List.prefix_refl (passes values))
  rw [fillBody_eq_runPasses, String.toList_ofList, hfilled, source_fillSlots]

def Piece.rename (ρ : String → String) : Piece → Piece
  | .run cs => .run cs
  | .slot other => .slot { other with name := ρ other.name }

theorem shown_rename {ρ : String → String}
    (hinj : ∀ entry ∈ values.entries, ∀ other ∈ values.entries,
      ρ entry.1 = ρ other.1 → entry.1 = other.1)
    (hbound : ∀ slot, .slot slot ∈ pieces → (values.find? slot.name).isSome) :
    shown (values.rename ρ) (pieces.map (Piece.rename ρ)) = shown values pieces := by
  rw [shown, shown, List.flatMap_map]
  apply List.flatMap_congr
  intro piece hpiece
  cases piece with
  | run cs => rfl
  | slot slot =>
      obtain ⟨value, hvalue⟩ := Option.isSome_iff_exists.mp (hbound slot hpiece)
      have hmem := Table.mem_entries_of_find? hvalue
      have hrename : (values.rename ρ).find? (ρ slot.name) = values.find? slot.name := by
        apply Table.find?_rename
        intro entry hentry
        exact hinj entry hentry _ hmem
      rw [Piece.rename, Piece.shown, Piece.shown, hrename, hvalue]
      rfl

theorem plain_of_mem_rename {ρ : String → String}
    (h : ∀ entry ∈ values.entries, Plain (ρ entry.1)) :
    ∀ entry ∈ (values.rename ρ).entries, Plain entry.1 := by
  intro entry hentry
  obtain ⟨old, hold, rfl⟩ := Table.exists_of_mem_rename hentry
  exact h old hold

theorem plainSlots_rename {ρ : String → String}
    (h : ∀ entry ∈ values.entries, Plain (ρ entry.1))
    (hbound : ∀ slot, .slot slot ∈ pieces → (values.find? slot.name).isSome) :
    PlainSlots (pieces.map (Piece.rename ρ)) := by
  intro slot hslot
  obtain ⟨piece, hpiece, heq⟩ := List.mem_map.mp hslot
  cases piece with
  | run cs => cases heq
  | slot old =>
      cases heq
      obtain ⟨value, hvalue⟩ := Option.isSome_iff_exists.mp (hbound old hpiece)
      exact h _ (Table.mem_entries_of_find? hvalue)

theorem fillBody_rename {ρ : String → String}
    (hinj : ∀ entry ∈ values.entries, ∀ other ∈ values.entries,
      ρ entry.1 = ρ other.1 → entry.1 = other.1)
    (hplain : ∀ entry ∈ values.entries, Plain (ρ entry.1))
    (hbound : ∀ slot, .slot slot ∈ pieces → (values.find? slot.name).isSome)
    (hundisturbed : Undisturbed (passes (values.rename ρ)) (pieces.map (Piece.rename ρ))) :
    fillBody (values.rename ρ) (String.ofList (source (pieces.map (Piece.rename ρ)))) =
      String.ofList (shown values pieces) := by
  rw [fillBody_source (plain_of_mem_rename hplain) (plainSlots_rename hplain hbound) hundisturbed,
    shown_rename hinj hbound]

/-- A text without two opening braces in a row, which does not end with one either. -/
def Inert (cs : List Char) : Prop :=
  cs.IsChain (fun c d => ¬ (c = '{' ∧ d = '{')) ∧ cs.getLast? ≠ some '{'

instance (cs : List Char) : Decidable (Inert cs) := inferInstanceAs (Decidable (_ ∧ _))

theorem Inert.append {first second : List Char} (hfirst : Inert first) (hsecond : Inert second) :
    Inert (first ++ second) := by
  constructor
  · refine List.isChain_append.mpr ⟨hfirst.1, hsecond.1, ?_⟩
    intro c hc d _ heq
    exact hfirst.2 (heq.1 ▸ hc)
  · rw [List.getLast?_append]
    cases hlast : second.getLast? with
    | none => exact hfirst.2
    | some c => exact fun heq => hsecond.2 (hlast.trans heq)

theorem Inert.lacks_mark {cs : List Char} (h : Inert cs) (slot : Slot) :
    ¬ slot.mark <:+: cs := by
  intro ⟨before, after, hcs⟩
  have hchain := (hcs ▸ h.1).left_of_append.right_of_append
  rw [Slot.mark, tight, List.cons_append, List.cons_append, List.isChain_cons_cons] at hchain
  exact hchain.1 ⟨rfl, rfl⟩

def InertRuns (pieces : List Piece) : Prop := ∀ cs, .run cs ∈ pieces → Inert cs

theorem runsFree_of_inert (h : InertRuns pieces) (slot : Slot) {front : List Char}
    (hfront : Inert front) : RunsFree slot.mark front pieces := by
  induction pieces generalizing front with
  | nil => exact hfront.lacks_mark slot
  | cons piece pieces ih =>
      have hrest : InertRuns pieces := fun cs hcs => h cs (List.mem_cons_of_mem _ hcs)
      cases piece with
      | run cs => exact ih hrest (hfront.append (h cs List.mem_cons_self))
      | slot other => exact ⟨hfront.lacks_mark slot, ih hrest ⟨.nil, nofun⟩⟩

theorem inertRuns_map_fill (h : InertRuns pieces) (slot : Slot) {new : List Char}
    (hnew : Inert new) : InertRuns (pieces.map (Piece.fill slot new)) := by
  intro cs hcs
  obtain ⟨piece, hpiece, hfill⟩ := List.mem_map.mp hcs
  cases piece with
  | run old =>
      cases hfill
      exact h cs hpiece
  | slot other =>
      rw [Piece.fill] at hfill
      split at hfill
      · cases hfill
        exact hnew
      · cases hfill

theorem inertRuns_rename (h : InertRuns pieces) (ρ : String → String) :
    InertRuns (pieces.map (Piece.rename ρ)) := by
  intro cs hcs
  obtain ⟨piece, hpiece, hrename⟩ := List.mem_map.mp hcs
  cases piece with
  | run old =>
      cases hrename
      exact h cs hpiece
  | slot other => cases hrename

theorem undisturbed_of_inert {passes : List (Slot × List Char)}
    (hpasses : ∀ pass ∈ passes, Inert pass.2) (h : InertRuns pieces) :
    Undisturbed passes pieces := by
  induction passes generalizing pieces with
  | nil => trivial
  | cons pass passes ih =>
      obtain ⟨hpass, hpasses⟩ := List.forall_mem_cons.mp hpasses
      exact ⟨.inr (runsFree_of_inert h pass.1 ⟨.nil, nofun⟩),
        ih hpasses (inertRuns_map_fill h pass.1 hpass)⟩

theorem undisturbed_passes_of_inert
    (hvalues : ∀ entry ∈ values.entries, Inert entry.2.plainText.toList) (h : InertRuns pieces) :
    Undisturbed (passes values) pieces := by
  apply undisturbed_of_inert _ h
  intro pass hpass
  obtain ⟨entry, hentry, -, hnew⟩ := exists_of_mem_passes hpass
  exact hnew ▸ hvalues entry hentry

theorem fillBody_of_inert (hvalues : ∀ entry ∈ values.entries, Plain entry.1)
    (hinert : ∀ entry ∈ values.entries, Inert entry.2.plainText.toList) (h : PlainSlots pieces)
    (hruns : InertRuns pieces) :
    fillBody values (String.ofList (source pieces)) = String.ofList (shown values pieces) ∧
      ∀ ρ : String → String,
        (∀ entry ∈ values.entries, ∀ other ∈ values.entries,
          ρ entry.1 = ρ other.1 → entry.1 = other.1) →
        (∀ entry ∈ values.entries, Plain (ρ entry.1)) →
        (∀ slot, .slot slot ∈ pieces → (values.find? slot.name).isSome) →
        fillBody (values.rename ρ) (String.ofList (source (pieces.map (Piece.rename ρ)))) =
          String.ofList (shown values pieces) := by
  refine ⟨fillBody_source hvalues h (undisturbed_passes_of_inert hinert hruns), ?_⟩
  intro ρ hinj hplain hbound
  apply fillBody_rename hinj hplain hbound
  apply undisturbed_passes_of_inert _ (inertRuns_rename hruns ρ)
  intro entry hentry
  obtain ⟨old, hold, rfl⟩ := Table.exists_of_mem_rename hentry
  exact hinert old hold

/-- Values are put in as they are if no pass is disturbed, and then other names for the
variables change nothing. Passes are undisturbed if and only if each of them fills its own
slots and changes nothing else. -/
theorem fillBody_template (hvalues : ∀ entry ∈ values.entries, Plain entry.1)
    (h : PlainSlots pieces) :
    (Undisturbed (passes values) pieces ↔ ∀ done, done <+: passes values →
      runPasses done (source pieces) = source (fillSlots done pieces)) ∧
    (Undisturbed (passes values) pieces →
      fillBody values (String.ofList (source pieces)) = String.ofList (shown values pieces) ∧
      ∀ ρ : String → String,
        (∀ entry ∈ values.entries, ∀ other ∈ values.entries,
          ρ entry.1 = ρ other.1 → entry.1 = other.1) →
        (∀ entry ∈ values.entries, Plain (ρ entry.1)) →
        (∀ slot, .slot slot ∈ pieces → (values.find? slot.name).isSome) →
        Undisturbed (passes (values.rename ρ)) (pieces.map (Piece.rename ρ)) →
        fillBody (values.rename ρ) (String.ofList (source (pieces.map (Piece.rename ρ)))) =
          fillBody values (String.ofList (source pieces))) := by
  refine ⟨undisturbed_iff (plain_of_mem_passes hvalues) h, ?_⟩
  intro hundisturbed
  have hfill := fillBody_source hvalues h hundisturbed
  refine ⟨hfill, ?_⟩
  intro ρ hinj hplain hbound hrenamed
  rw [hfill]
  exact fillBody_rename hinj hplain hbound hrenamed

end Shown

def address : Table Json := Table.ofList [("host", .str "api"), ("port", .ofNat 8080)]

def addressPieces : List Piece := [.slot ⟨"host", false⟩, .run [':'], .slot ⟨"port", true⟩]

def zoned (name : String) : String := if name = "host" then "zone" else name

theorem fillBody_template_address :
    fillBody address "{{host}}:{{ port }}" = "api:8080" ∧
      fillBody (address.rename zoned) "{{zone}}:{{ port }}" = "api:8080" := by
  have hentries : address.entries = [("host", .str "api"), ("port", .ofNat 8080)] := rfl
  have hrenamed : (address.rename zoned).entries = [("port", .ofNat 8080), ("zone", .str "api")] :=
    rfl
  have hslots : ∀ slot, .slot slot ∈ addressPieces →
      slot = ⟨"host", false⟩ ∨ slot = ⟨"port", true⟩ := by simp [addressPieces]
  have hplain : PlainSlots addressPieces := by
    intro slot hslot
    rcases hslots slot hslot with rfl | rfl <;> decide
  have hbound : ∀ slot, .slot slot ∈ addressPieces → (address.find? slot.name).isSome := by
    intro slot hslot
    rcases hslots slot hslot with rfl | rfl <;> rfl
  have hnames : ∀ entry ∈ address.entries, Plain entry.1 ∧ Plain (zoned entry.1) := by
    simp only [hentries, List.forall_mem_cons]
    exact ⟨by decide, by decide, List.forall_mem_nil _⟩
  have hinj : ∀ entry ∈ address.entries, ∀ other ∈ address.entries,
      zoned entry.1 = zoned other.1 → entry.1 = other.1 := by
    simp [hentries, zoned]
  have hruns : InertRuns addressPieces := by
    intro cs hcs
    have hcolon : cs = [':'] := by simpa [addressPieces] using hcs
    rw [hcolon]
    decide
  have hapi : Inert (Json.str "api").plainText.toList := by decide
  have hnumber : Inert (Json.ofNat 8080).plainText.toList := by decide
  have hundisturbed : Undisturbed (passes address) addressPieces := by
    apply undisturbed_passes_of_inert _ hruns
    simp [hentries, hapi, hnumber]
  have hundisturbed' :
      Undisturbed (passes (address.rename zoned)) (addressPieces.map (Piece.rename zoned)) := by
    apply undisturbed_passes_of_inert _ (inertRuns_rename hruns zoned)
    simp [hrenamed, hapi, hnumber]
  obtain ⟨-, hfill⟩ := fillBody_template (fun entry h => (hnames entry h).1) hplain
  obtain ⟨hshown, hrename⟩ := hfill hundisturbed
  have hzoned := hrename zoned hinj (fun entry h => (hnames entry h).2) hbound hundisturbed'
  exact ⟨hshown, hzoned.trans hshown⟩

/-- A value that is the slot of a later variable is taken for one. -/
theorem fillBody_of_later_slot {a b : String} (ha : Plain a) (hb : Plain b) (hab : a < b)
    (value : Json) :
    fillBody (Table.ofList [(a, .str (String.ofList (Slot.mark ⟨b, true⟩))), (b, value)])
        (String.ofList (Slot.mark ⟨a, false⟩)) = value.plainText := by
  have hentries : (Table.ofList [(a, Json.str (String.ofList (Slot.mark ⟨b, true⟩))),
      (b, value)]).entries = [(a, .str (String.ofList (Slot.mark ⟨b, true⟩))), (b, value)] := by
    apply Table.entries_foldl_insert
    exact List.pairwise_pair.mpr hab
  have hne : b ≠ a := fun heq => String.lt_irrefl _ (heq ▸ hab)
  have hput := replaceAll_own_mark ⟨a, false⟩ (Slot.mark ⟨b, true⟩)
  have hkept : ∀ slot : Slot, Plain slot.name → ⟨b, true⟩ ≠ slot → ∀ new,
      Text.replaceAll slot.mark new (Slot.mark ⟨b, true⟩) = Slot.mark ⟨b, true⟩ :=
    fun slot hslot hslot' new => replaceAll_other_mark hslot hb hslot' new
  have hagain := replaceAll_own_mark ⟨b, true⟩ value.plainText.toList
  have hfill : runPasses
      [(⟨a, false⟩, Slot.mark ⟨b, true⟩), (⟨a, true⟩, Slot.mark ⟨b, true⟩),
        (⟨b, false⟩, value.plainText.toList), (⟨b, true⟩, value.plainText.toList)]
      (Slot.mark ⟨a, false⟩) = value.plainText.toList := by
    simp only [runPasses, List.foldl_cons, List.foldl_nil]
    rw [hput, hkept ⟨a, true⟩ ha (by simp [hne]), hkept ⟨b, false⟩ hb (by simp), hagain]
  rw [fillBody_eq_runPasses, passes, hentries]
  simpa [Json.plainText] using congrArg String.ofList hfill

example : fillBody (Table.ofList [("a", .str "{{ b }}"), ("b", .str "x")]) "{{a}}" = "x" := rfl

end Placeholder

end HttpScenario
