import HttpScenario.Json.Reader
import HttpScenario.Json.Writer
import HttpScenario.Proofs.Json.NumberReadBack
import HttpScenario.Proofs.Json.StringText

namespace HttpScenario.Json

/-! One writer for the compact and for the pretty text: they differ only in the
blanks between the parts of a document. -/

/-- The blanks before an element or a closing bracket, by its level, and those
behind a colon. -/
structure Layout where
  gap : Nat → List Char
  space : List Char
  gap_blank : ∀ level, ∀ c ∈ gap level, isBlank c = true
  space_blank : ∀ c ∈ space, isBlank c = true

def Layout.compact : Layout where
  gap _ := []
  space := []
  gap_blank _ := List.forall_mem_nil _
  space_blank := List.forall_mem_nil _

theorem newline_blank (level : Nat) : ∀ c ∈ newline level, isBlank c = true := by
  intro c hc
  rcases List.mem_cons.mp hc with rfl | hc
  · decide
  · rw [List.eq_of_mem_replicate hc]
    decide

def Layout.pretty : Layout where
  gap := newline
  space := [' ']
  gap_blank := newline_blank
  space_blank := List.forall_mem_singleton.mpr rfl

section Writer

variable (layout : Layout)

mutual

def writeIn (level : Nat) : Json → List Char
  | .arr [] => ['[', ']']
  | .arr (item :: items) =>
      '[' :: (layout.gap (level + 1) ++ (writeIn (level + 1) item ++ writeItemsIn level items))
  | .obj [] => ['{', '}']
  | .obj ((name, value) :: rest) =>
      '{' :: (layout.gap (level + 1) ++ (writeString name ++ ':' :: (layout.space ++
        (writeIn (level + 1) value ++ writeMembersIn level rest))))
  | v => v.writeScalar

def writeItemsIn (level : Nat) : List Json → List Char
  | [] => layout.gap level ++ [']']
  | item :: items =>
      ',' :: (layout.gap (level + 1) ++ (writeIn (level + 1) item ++ writeItemsIn level items))

def writeMembersIn (level : Nat) : Members Json → List Char
  | [] => layout.gap level ++ ['}']
  | (name, value) :: rest =>
      ',' :: (layout.gap (level + 1) ++ (writeString name ++ ':' :: (layout.space ++
        (writeIn (level + 1) value ++ writeMembersIn level rest))))

end

end Writer

theorem writeIn_scalar {v : Json} (h : v.isContainer = false) (layout : Layout) (level : Nat) :
    v.writeIn layout level = v.writeScalar := by
  cases v with
  | arr => cases h
  | obj => cases h
  | _ => rfl

theorem writeItems_eq {items : List Json} (level : Nat)
    (h : ∀ item ∈ items, item.write = item.writeIn .compact (level + 1)) :
    writeItems items = writeItemsIn .compact level items := by
  induction items with
  | nil => rfl
  | cons item items ih =>
      obtain ⟨hitem, hitems⟩ := List.forall_mem_cons.mp h
      rw [writeItems, writeItemsIn, hitem, ih hitems]
      rfl

theorem writeMembers_eq {members : Members Json} (level : Nat)
    (h : ∀ member ∈ members, member.2.write = member.2.writeIn .compact (level + 1)) :
    writeMembers members = writeMembersIn .compact level members := by
  induction members with
  | nil => rfl
  | cons member members ih =>
      obtain ⟨hmember, hmembers⟩ := List.forall_mem_cons.mp h
      rw [writeMembers, writeMembersIn, hmember, ih hmembers]
      simp [Layout.compact]

theorem write_eq_writeIn (v : Json) (level : Nat) : v.write = v.writeIn .compact level := by
  induction v generalizing level with
  | null => rfl
  | bool b => cases b <;> rfl
  | num n => rfl
  | str s => rfl
  | arr items ih =>
      cases items with
      | nil => rfl
      | cons item items =>
          obtain ⟨hitem, hitems⟩ := List.forall_mem_cons.mp ih
          rw [write, writeIn, hitem (level + 1),
            writeItems_eq level fun other hother => hitems other hother (level + 1)]
          rfl
  | obj members ih =>
      cases members with
      | nil => rfl
      | cons member members =>
          obtain ⟨hmember, hmembers⟩ := List.forall_mem_cons.mp ih
          rw [write, writeIn, hmember (level + 1),
            writeMembers_eq level fun other hother => hmembers other hother (level + 1)]
          simp [Layout.compact]

theorem writePrettyItems_eq {items : List Json} (level : Nat)
    (h : ∀ item ∈ items, item.writePretty (level + 1) = item.writeIn .pretty (level + 1)) :
    writePrettyItems level items = writeItemsIn .pretty level items := by
  induction items with
  | nil => rfl
  | cons item items ih =>
      obtain ⟨hitem, hitems⟩ := List.forall_mem_cons.mp h
      rw [writePrettyItems, writeItemsIn, hitem, ih hitems]
      simp [Layout.pretty]

theorem writePrettyMembers_eq {members : Members Json} (level : Nat)
    (h : ∀ member ∈ members,
      member.2.writePretty (level + 1) = member.2.writeIn .pretty (level + 1)) :
    writePrettyMembers level members = writeMembersIn .pretty level members := by
  induction members with
  | nil => rfl
  | cons member members ih =>
      obtain ⟨hmember, hmembers⟩ := List.forall_mem_cons.mp h
      rw [writePrettyMembers, writeMembersIn, hmember, ih hmembers]
      simp [Layout.pretty]

theorem writePretty_eq_writeIn (v : Json) (level : Nat) :
    v.writePretty level = v.writeIn .pretty level := by
  induction v generalizing level with
  | null => rfl
  | bool b => cases b <;> rfl
  | num n => rfl
  | str s => rfl
  | arr items ih =>
      cases items with
      | nil => rfl
      | cons item items =>
          obtain ⟨hitem, hitems⟩ := List.forall_mem_cons.mp ih
          rw [writePretty, writeIn, hitem (level + 1),
            writePrettyItems_eq level fun other hother => hitems other hother (level + 1)]
          simp [Layout.pretty]
  | obj members ih =>
      cases members with
      | nil => rfl
      | cons member members =>
          obtain ⟨hmember, hmembers⟩ := List.forall_mem_cons.mp ih
          rw [writePretty, writeIn, hmember (level + 1),
            writePrettyMembers_eq level fun other hother => hmembers other hother (level + 1)]
          simp [Layout.pretty]

section Length

variable (layout : Layout) (level : Nat)

theorem length_lt_writeItemsIn (items : List Json) :
    items.length < (writeItemsIn layout level items).length := by
  induction items with
  | nil => simp [writeItemsIn]
  | cons item items ih =>
      simp only [writeItemsIn, List.length_cons, List.length_append]
      omega

theorem length_writeIn_lt {items : List Json} {item : Json} (h : item ∈ items) :
    (item.writeIn layout (level + 1)).length < (writeItemsIn layout level items).length := by
  induction items with
  | nil => cases h
  | cons first rest ih =>
      simp only [writeItemsIn, List.length_cons, List.length_append]
      rcases List.mem_cons.mp h with rfl | h
      · omega
      · have := ih h
        omega

theorem length_lt_writeMembersIn (members : Members Json) :
    members.length < (writeMembersIn layout level members).length := by
  induction members with
  | nil => simp [writeMembersIn]
  | cons member members ih =>
      simp only [writeMembersIn, List.length_cons, List.length_append]
      omega

theorem length_member_lt {members : Members Json} {member : String × Json}
    (h : member ∈ members) :
    member.1.toList.length < (writeMembersIn layout level members).length ∧
      (member.2.writeIn layout (level + 1)).length <
        (writeMembersIn layout level members).length := by
  induction members with
  | nil => cases h
  | cons first rest ih =>
      simp only [writeMembersIn, List.length_cons, List.length_append]
      rcases List.mem_cons.mp h with rfl | h
      · have hname := length_writeString member.1
        omega
      · have := ih h
        omega

theorem length_item_le {items : List Json} {item : Json} (h : item ∈ items) :
    (item.writeIn layout (level + 1)).length ≤ (writeIn layout level (.arr items)).length := by
  cases items with
  | nil => cases h
  | cons first rest =>
      simp only [writeIn, List.length_cons, List.length_append]
      rcases List.mem_cons.mp h with rfl | h
      · omega
      · have hrest := length_writeIn_lt layout level h
        omega

theorem length_value_le {members : Members Json} {member : String × Json}
    (h : member ∈ members) :
    (member.2.writeIn layout (level + 1)).length ≤
      (writeIn layout level (.obj members)).length := by
  cases members with
  | nil => cases h
  | cons first rest =>
      simp only [writeIn, List.length_cons, List.length_append]
      rcases List.mem_cons.mp h with rfl | h
      · omega
      · have hrest := (length_member_lt layout level h).2
        omega

end Length

end HttpScenario.Json
