import HttpScenario.Proofs.Text.Replace
import HttpScenario.Scenario.Placeholder

namespace HttpScenario

namespace Placeholder

/-! Bodies as runs of text with slots for values between them. A pass for one slot reads each
run on its own, since no slot reaches into a run and no part of a slot is a slot. -/

def Plain (name : String) : Prop := ∀ c ∈ name.toList, c ≠ '{' ∧ c ≠ '}' ∧ c ≠ ' '

instance (name : String) : Decidable (Plain name) := List.decidableBAll _ name.toList

structure Slot where
  name : String
  blanks : Bool
deriving DecidableEq

def Slot.inner (slot : Slot) : List Char :=
  if slot.blanks then ' ' :: slot.name.toList ++ [' '] else slot.name.toList

def Slot.mark (slot : Slot) : List Char := tight slot.inner

inductive Piece
  | run (cs : List Char)
  | slot (slot : Slot)

namespace Piece

def text : Piece → List Char
  | .run cs => cs
  | .slot other => other.mark

def fill (slot : Slot) (new : List Char) : Piece → Piece
  | .run cs => .run cs
  | .slot other => if other = slot then .run new else .slot other

end Piece

def PlainSlots (pieces : List Piece) : Prop := ∀ slot, .slot slot ∈ pieces → Plain slot.name

def source (pieces : List Piece) : List Char := pieces.flatMap Piece.text

variable {slot other : Slot} {new : List Char}

theorem Slot.mem_inner (h : Plain slot.name) {c : Char} (hc : c ∈ slot.inner) :
    c ≠ '{' ∧ c ≠ '}' := by
  unfold inner at hc
  split at hc
  · simp only [List.mem_append, List.mem_cons, List.not_mem_nil, or_false] at hc
    rcases hc with (rfl | hc) | rfl
    · decide
    · exact ⟨(h c hc).1, (h c hc).2.1⟩
    · decide
  · exact ⟨(h c hc).1, (h c hc).2.1⟩

theorem Slot.mark_ne_nil (slot : Slot) : slot.mark ≠ [] := List.cons_ne_nil _ _

theorem Slot.inner_injective (hslot : Plain slot.name) (hother : Plain other.name)
    (h : slot.inner = other.inner) : slot = other := by
  have hblank : ∀ {name : String}, Plain name → ' ' ∉ name.toList :=
    fun hname hmem => (hname ' ' hmem).2.2 rfl
  obtain ⟨name, blanks⟩ := slot
  obtain ⟨name', blanks'⟩ := other
  cases blanks <;> cases blanks' <;> simp only [inner, Bool.false_eq_true, if_true, if_false] at h
  · rw [String.toList_inj.mp h]
  · exact absurd (h ▸ List.mem_cons_self) (hblank hslot)
  · exact absurd (h ▸ List.mem_cons_self) (hblank hother)
  · simp only [List.cons_append, List.cons.injEq, true_and, List.append_cancel_right_eq] at h
    rw [String.toList_inj.mp h]

theorem Slot.opens_mark (slot : Slot) (rest : List Char) : ['{', '{'] <+: slot.mark ++ rest :=
  ⟨slot.inner ++ ['}', '}'] ++ rest, by simp [mark, tight]⟩

theorem Slot.not_opens_of_suffix (h : Plain slot.name) {tail : List Char}
    (htail : tail <:+ slot.mark) (hnil : tail ≠ []) (hproper : tail ≠ slot.mark)
    (rest : List Char) : ¬ ['{', '{'] <+: tail ++ rest := by
  have hclosed : ∀ c ∈ slot.inner ++ ['}', '}'], c ≠ '{' := by
    intro c hc
    rcases List.mem_append.mp hc with hc | hc
    · exact (Slot.mem_inner h hc).1
    · intro hopen
      simp [hopen] at hc
  have hcons : tail = '{' :: (slot.inner ++ ['}', '}']) ∨ tail <:+ slot.inner ++ ['}', '}'] := by
    rcases List.suffix_cons_iff.mp htail with htail | htail
    · exact absurd htail hproper
    · exact List.suffix_cons_iff.mp htail
  intro hopens
  rcases hcons with rfl | htail
  · rw [List.cons_append, List.cons_prefix_cons] at hopens
    obtain ⟨-, rest', hrest⟩ := hopens
    cases hinner : slot.inner ++ ['}', '}'] with
    | nil => simp at hinner
    | cons c cs =>
        rw [hinner] at hrest hclosed
        exact hclosed c List.mem_cons_self (List.cons.inj hrest).1.symm
  · cases tail with
    | nil => exact hnil rfl
    | cons c cs =>
        obtain ⟨rest', hrest⟩ := hopens
        exact hclosed c (htail.subset List.mem_cons_self) (List.cons.inj hrest).1.symm

theorem Slot.eq_of_mark_prefix (hslot : Plain slot.name) (hother : Plain other.name)
    {rest : List Char} (h : slot.mark <+: other.mark ++ rest) : slot = other := by
  obtain ⟨rest', h⟩ := h
  have hclose : ∀ {slot : Slot}, Plain slot.name → ∀ c ∈ slot.inner, (c != '}') = true :=
    fun hslot c hc => bne_iff_ne.mpr (Slot.mem_inner hslot hc).2
  have htake : ∀ {slot : Slot} (_ : Plain slot.name) (rest : List Char),
      (slot.inner ++ ('}' :: rest)).takeWhile (· != '}') = slot.inner := by
    intro slot hslot rest
    rw [List.takeWhile_append_of_pos (hclose hslot)]
    simp
  apply Slot.inner_injective hslot hother
  simp only [mark, tight, List.cons_append, List.cons.injEq, true_and, List.append_assoc,
    List.nil_append] at h
  rw [← htake hslot, h, htake hother]

theorem replaceAll_before_slot (hslot : Plain slot.name) (other : Slot) (front rest : List Char) :
    Text.replaceAll slot.mark new (front ++ (other.mark ++ rest)) =
      Text.replaceAll slot.mark new front ++
        Text.replaceAll slot.mark new (other.mark ++ rest) := by
  apply Text.replaceAll_append slot.mark_ne_nil
  intro tail htail hnil hproper hover
  obtain ⟨after, hafter⟩ := hover
  exact Slot.not_opens_of_suffix hslot htail hnil hproper after (hafter ▸ other.opens_mark rest)

theorem replaceAll_slot (hslot : Plain slot.name) (hother : Plain other.name) (rest : List Char) :
    Text.replaceAll slot.mark new (other.mark ++ rest) =
      (Piece.fill slot new (.slot other)).text ++ Text.replaceAll slot.mark new rest := by
  rw [Piece.fill]
  split
  · next heq =>
      rw [heq, Text.replaceAll_part_append slot.mark_ne_nil, Piece.text]
  · next hne =>
      rw [Piece.text]
      apply Text.replaceAll_append_of_kept
      intro tail htail hnil hmark
      by_cases hwhole : tail = other.mark
      · exact hne (Slot.eq_of_mark_prefix hslot hother (hwhole ▸ hmark)).symm
      · have hopens : ['{', '{'] <+: slot.mark := by simpa using slot.opens_mark []
        exact Slot.not_opens_of_suffix hother htail hnil hwhole rest (hopens.trans hmark)

theorem replaceAll_own_mark (slot : Slot) (new : List Char) :
    Text.replaceAll slot.mark new slot.mark = new := by
  have hreplace : Text.replaceAll slot.mark new (slot.mark ++ []) =
      new ++ Text.replaceAll slot.mark new [] :=
    Text.replaceAll_part_append slot.mark_ne_nil []
  simpa using hreplace

theorem replaceAll_other_mark (hslot : Plain slot.name) (hother : Plain other.name)
    (hne : other ≠ slot) (new : List Char) :
    Text.replaceAll slot.mark new other.mark = other.mark := by
  have hreplace : Text.replaceAll slot.mark new (other.mark ++ []) =
      (Piece.fill slot new (.slot other)).text ++ Text.replaceAll slot.mark new [] :=
    replaceAll_slot hslot hother []
  simpa [Piece.fill, hne, Piece.text] using hreplace

/-- The part comes up in no run between the slots, read with what stands before the pieces. -/
def RunsFree (part : List Char) : List Char → List Piece → Prop
  | front, [] => ¬ part <:+: front
  | front, .run cs :: pieces => RunsFree part (front ++ cs) pieces
  | front, .slot _ :: pieces => ¬ part <:+: front ∧ RunsFree part [] pieces

section Pass

variable {pieces : List Piece}

@[simp] theorem source_nil : source [] = [] := rfl

@[simp] theorem source_cons (piece : Piece) (pieces : List Piece) :
    source (piece :: pieces) = piece.text ++ source pieces := List.flatMap_cons

theorem plainSlots_of_cons {piece : Piece} (h : PlainSlots (piece :: pieces)) :
    PlainSlots pieces :=
  fun slot hslot => h slot (List.mem_cons_of_mem _ hslot)

theorem replaceAll_slot_cons (hslot : Plain slot.name) (h : PlainSlots (.slot other :: pieces))
    (front : List Char) :
    Text.replaceAll slot.mark new (front ++ source (.slot other :: pieces)) =
      Text.replaceAll slot.mark new front ++ ((Piece.fill slot new (.slot other)).text ++
        Text.replaceAll slot.mark new (source pieces)) := by
  rw [source_cons, Piece.text, replaceAll_before_slot hslot,
    replaceAll_slot hslot (h other List.mem_cons_self)]

theorem length_replaceAll_source (hslot : Plain slot.name) (h : PlainSlots pieces)
    (new front : List Char) :
    (new.length ≤ slot.mark.length →
      (Text.replaceAll slot.mark new (front ++ source pieces)).length ≤
        (front ++ source (pieces.map (Piece.fill slot new))).length) ∧
    (slot.mark.length ≤ new.length →
      (front ++ source (pieces.map (Piece.fill slot new))).length ≤
        (Text.replaceAll slot.mark new (front ++ source pieces)).length) := by
  induction pieces generalizing front with
  | nil => simpa using Text.length_replaceAll slot.mark_ne_nil new front
  | cons piece pieces ih =>
      cases piece with
      | run cs => simpa [Piece.text, Piece.fill] using ih (plainSlots_of_cons h) (front ++ cs)
      | slot other =>
          have hfront := Text.length_replaceAll slot.mark_ne_nil new front
          have hrest := ih (plainSlots_of_cons h) []
          rw [replaceAll_slot_cons hslot h, List.map_cons, source_cons]
          simp only [List.length_append, List.nil_append] at hrest ⊢
          omega

theorem replaceAll_slot_cons_eq_iff (hslot : Plain slot.name)
    (h : PlainSlots (.slot other :: pieces)) (front : List Char) :
    Text.replaceAll slot.mark new (front ++ source (.slot other :: pieces)) =
        front ++ source ((Piece.slot other :: pieces).map (Piece.fill slot new)) ↔
      Text.replaceAll slot.mark new front = front ∧
        Text.replaceAll slot.mark new (source pieces) =
          source (pieces.map (Piece.fill slot new)) := by
  rw [replaceAll_slot_cons hslot h, List.map_cons, source_cons]
  constructor
  · -- Both stretches grow, or both shrink, so neither of them changes its length.
    intro heq
    have hlength := congrArg List.length heq
    have hfront := Text.length_replaceAll slot.mark_ne_nil new front
    have hrest := length_replaceAll_source hslot (plainSlots_of_cons h) new []
    simp only [List.length_append, List.nil_append] at hlength hrest
    obtain ⟨hfirst, hsecond⟩ := List.append_inj heq (by omega)
    exact ⟨hfirst, List.append_cancel_left hsecond⟩
  · intro ⟨hfirst, hsecond⟩
    rw [hfirst, hsecond]

theorem replaceAll_source_eq_iff (hslot : Plain slot.name) (h : PlainSlots pieces)
    (new front : List Char) :
    Text.replaceAll slot.mark new (front ++ source pieces) =
        front ++ source (pieces.map (Piece.fill slot new)) ↔
      new = slot.mark ∨ RunsFree slot.mark front pieces := by
  induction pieces generalizing front with
  | nil => simpa [RunsFree] using Text.replaceAll_eq_self_iff slot.mark_ne_nil
  | cons piece pieces ih =>
      cases piece with
      | run cs =>
          simpa [Piece.text, Piece.fill, RunsFree] using ih (plainSlots_of_cons h) (front ++ cs)
      | slot other =>
          have hrest := ih (plainSlots_of_cons h) []
          rw [List.nil_append, List.nil_append] at hrest
          rw [replaceAll_slot_cons_eq_iff hslot h, Text.replaceAll_eq_self_iff slot.mark_ne_nil,
            hrest, RunsFree, or_and_left]

end Pass

end Placeholder

end HttpScenario
