import HttpScenario.Proofs.Json.Layout
import HttpScenario.Proofs.Results

namespace HttpScenario.Json

/-! What the text of a document is read as. Up to the limit on nesting it is the
document itself, but for floats that are not read back as themselves. -/

mutual

/-- The document that the text of a document is read as, at any depth. -/
def readBack? : Json → Option Json
  | .num n => n.readBack?.map .num
  | .arr items => (readBackItems? items).map .arr
  | .obj members => (readBackMembers? members).map .obj
  | v => some v

def readBackItems? : List Json → Option (List Json)
  | [] => some []
  | item :: items =>
      (readBack? item).bind fun item => (readBackItems? items).map (item :: ·)

def readBackMembers? : Members Json → Option (Members Json)
  | [] => some []
  | (name, value) :: rest =>
      (readBack? value).bind fun value => (readBackMembers? rest).map ((name, value) :: ·)

end

/-- Every number of a document is read back as itself from its text. -/
def ReadsBack (v : Json) : Prop := v.readBack? = some v

theorem readsBack_arr {items : List Json} :
    ReadsBack (.arr items) ↔ ∀ item ∈ items, item.ReadsBack := by
  have hitems : readBackItems? items = some items ↔ ∀ item ∈ items, item.ReadsBack := by
    induction items with
    | nil => simp [readBackItems?]
    | cons item items ih =>
        rw [List.forall_mem_cons, ← ih, ReadsBack, readBackItems?]
        simp only [Option.bind_eq_some_iff, Option.map_eq_some_iff, List.cons.injEq]
        constructor
        · rintro ⟨_, hitem, _, hrest, rfl, rfl⟩
          exact ⟨hitem, hrest⟩
        · rintro ⟨hitem, hrest⟩
          exact ⟨item, hitem, items, hrest, rfl, rfl⟩
  rw [ReadsBack, readBack?, ← hitems, Option.map_eq_some_iff]
  constructor
  · rintro ⟨_, h, heq⟩
    cases heq
    exact h
  · exact fun h => ⟨items, h, rfl⟩

theorem readsBack_obj {members : Members Json} :
    ReadsBack (.obj members) ↔ ∀ member ∈ members, member.2.ReadsBack := by
  have hmembers :
      readBackMembers? members = some members ↔ ∀ member ∈ members, member.2.ReadsBack := by
    induction members with
    | nil => simp [readBackMembers?]
    | cons member members ih =>
        obtain ⟨name, value⟩ := member
        rw [List.forall_mem_cons, ← ih, ReadsBack, readBackMembers?]
        simp only [Option.bind_eq_some_iff, Option.map_eq_some_iff, List.cons.injEq]
        constructor
        · rintro ⟨_, hvalue, _, hrest, heq, rfl⟩
          cases heq
          exact ⟨hvalue, hrest⟩
        · rintro ⟨hvalue, hrest⟩
          exact ⟨value, hvalue, members, hrest, rfl, rfl⟩
  rw [ReadsBack, readBack?, ← hmembers, Option.map_eq_some_iff]
  constructor
  · rintro ⟨_, h, heq⟩
    cases heq
    exact h
  · exact fun h => ⟨members, h, rfl⟩

theorem names_readBackMembers? {members read : Members Json}
    (h : readBackMembers? members = some read) : read.names = members.names := by
  induction members generalizing read with
  | nil =>
      cases h
      rfl
  | cons member members ih =>
      obtain ⟨name, value⟩ := member
      obtain ⟨value', -, h⟩ := Option.bind_eq_some_iff.mp h
      obtain ⟨rest, hrest, rfl⟩ := Option.map_eq_some_iff.mp h
      exact congrArg (name :: ·) (ih hrest)

theorem find?_readBackMembers? {members read : Members Json}
    (h : readBackMembers? members = some read) (name : String) :
    read.find? name = (members.find? name).bind readBack? := by
  induction members generalizing read with
  | nil =>
      cases h
      rfl
  | cons member rest ih =>
      obtain ⟨key, value⟩ := member
      obtain ⟨value', hvalue, h⟩ := Option.bind_eq_some_iff.mp h
      obtain ⟨rest', hrest, rfl⟩ := Option.map_eq_some_iff.mp h
      rw [Members.find?, Members.find?, ih hrest]
      split
      · exact hvalue.symm
      · rfl

def readWithin? (depth : Nat) (v : Json) : Option Json :=
  if v.depth ≤ depth then v.readBack? else none

theorem readWithin?_scalar {v : Json} (h : v.isContainer = false) (depth : Nat) :
    v.readWithin? depth = v.readBack? := by
  rw [readWithin?, depth_eq_zero h, if_pos (Nat.zero_le depth)]

theorem readWithin?_zero {v : Json} (h : v.isContainer = true) : v.readWithin? 0 = none :=
  if_neg (Nat.not_le_of_gt (depth_pos h))

def readItemsWithin? (depth : Nat) (items : List Json) : Option (List Json) :=
  if depthItems items ≤ depth then readBackItems? items else none

def readMembersWithin? (depth : Nat) (members : Members Json) : Option (Members Json) :=
  if depthMembers members ≤ depth then readBackMembers? members else none

theorem readWithin?_arr (depth : Nat) (items : List Json) :
    readWithin? (depth + 1) (.arr items) = (readItemsWithin? depth items).map .arr := by
  rw [readWithin?, Json.depth, readItemsWithin?, readBack?]
  by_cases h : depthItems items ≤ depth
  · rw [if_pos (Nat.succ_le_succ h), if_pos h]
  · rw [if_neg (fun hle => h (Nat.le_of_succ_le_succ hle)), if_neg h]
    rfl

theorem readWithin?_obj (depth : Nat) (members : Members Json) :
    readWithin? (depth + 1) (.obj members) = (readMembersWithin? depth members).map .obj := by
  rw [readWithin?, Json.depth, readMembersWithin?, readBack?]
  by_cases h : depthMembers members ≤ depth
  · rw [if_pos (Nat.succ_le_succ h), if_pos h]
  · rw [if_neg (fun hle => h (Nat.le_of_succ_le_succ hle)), if_neg h]
    rfl

theorem readItemsWithin?_cons (depth : Nat) (item : Json) (items : List Json) :
    readItemsWithin? depth (item :: items) =
      (readWithin? depth item).bind fun item =>
        (readItemsWithin? depth items).map (item :: ·) := by
  simp only [readItemsWithin?, readWithin?, depthItems, readBackItems?, Nat.max_le]
  by_cases hitem : item.depth ≤ depth <;> by_cases hitems : depthItems items ≤ depth <;>
    simp [hitem, hitems]

theorem readMembersWithin?_cons (depth : Nat) (name : String) (value : Json)
    (rest : Members Json) :
    readMembersWithin? depth ((name, value) :: rest) =
      (readWithin? depth value).bind fun value =>
        (readMembersWithin? depth rest).map ((name, value) :: ·) := by
  simp only [readMembersWithin?, readWithin?, depthMembers, readBackMembers?, Nat.max_le]
  by_cases hvalue : value.depth ≤ depth <;> by_cases hrest : depthMembers rest ≤ depth <;>
    simp [hvalue, hrest]

theorem skipBlanks_append {blanks : List Char} (h : ∀ c ∈ blanks, isBlank c = true)
    (rest : List Char) : skipBlanks (blanks ++ rest) = skipBlanks rest :=
  List.dropWhile_append_of_pos h

theorem skipBlanks_cons {c : Char} (h : isBlank c = false) (rest : List Char) :
    skipBlanks (c :: rest) = c :: rest :=
  List.dropWhile_cons_of_neg (by simp [h])

theorem readValue_append {blanks : List Char} (h : ∀ c ∈ blanks, isBlank c = true)
    (limit depth : Nat) (rest : List Char) :
    readValue limit depth (blanks ++ rest) = readValue limit depth rest := by
  cases depth <;> simp only [readValue, skipBlanks_append h]

theorem endsNumber_cons {c : Char} (hdigit : isDigit c = false) (hpoint : c ≠ '.')
    (hsmall : c ≠ 'e') (hcapital : c ≠ 'E') (rest : List Char) : EndsNumber (c :: rest) := by
  intro d hd
  rw [← Option.some.inj hd]
  exact ⟨hdigit, hpoint, hsmall, hcapital⟩

theorem endsNumber_blanks {blanks rest : List Char} (h : ∀ c ∈ blanks, isBlank c = true)
    (hrest : EndsNumber rest) : EndsNumber (blanks ++ rest) := by
  cases blanks with
  | nil => exact hrest
  | cons c blanks =>
      have hc := h c List.mem_cons_self
      simp only [isBlank, Bool.or_eq_true, beq_iff_eq] at hc
      rcases hc with ((rfl | rfl) | rfl) | rfl <;>
        exact endsNumber_cons (by decide) (by decide) (by decide) (by decide) _

theorem writeIn_head (v : Json) (layout : Layout) (level : Nat) :
    ∃ c rest, v.writeIn layout level = c :: rest ∧ isBlank c = false ∧ c ≠ ']' := by
  cases v with
  | null => exact ⟨'n', _, rfl, by decide, by decide⟩
  | bool b => cases b <;> exact ⟨_, _, rfl, by decide, by decide⟩
  | num n =>
      obtain ⟨c, rest, hwrite, hc⟩ := writeNumber_head n
      refine ⟨c, rest, hwrite, ?_⟩
      rcases hc with hc | rfl
      · refine ⟨?_, fun heq => absurd (heq ▸ hc) (by decide)⟩
        cases hblank : isBlank c with
        | false => rfl
        | true =>
            simp only [isBlank, Bool.or_eq_true, beq_iff_eq] at hblank
            rcases hblank with ((rfl | rfl) | rfl) | rfl <;> exact absurd hc (by decide)
      · exact ⟨by decide, by decide⟩
  | str s => exact ⟨'"', _, rfl, by decide, by decide⟩
  | arr items => cases items <;> exact ⟨'[', _, rfl, by decide, by decide⟩
  | obj members => cases members <;> exact ⟨'{', _, rfl, by decide, by decide⟩

theorem writeItemsIn_endsNumber (layout : Layout) (level : Nat) (items : List Json)
    (rest : List Char) : EndsNumber (writeItemsIn layout level items ++ rest) := by
  cases items with
  | nil =>
      rw [writeItemsIn, List.append_assoc]
      refine endsNumber_blanks (layout.gap_blank level) ?_
      exact endsNumber_cons (by decide) (by decide) (by decide) (by decide) _
  | cons item items => exact endsNumber_cons (by decide) (by decide) (by decide) (by decide) _

theorem writeMembersIn_endsNumber (layout : Layout) (level : Nat) (members : Members Json)
    (rest : List Char) : EndsNumber (writeMembersIn layout level members ++ rest) := by
  cases members with
  | nil =>
      rw [writeMembersIn, List.append_assoc]
      refine endsNumber_blanks (layout.gap_blank level) ?_
      exact endsNumber_cons (by decide) (by decide) (by decide) (by decide) _
  | cons member members =>
      exact endsNumber_cons (by decide) (by decide) (by decide) (by decide) _

section Rounds

variable (element : List Char → Read) (limit : Nat) {blanks : List Char}
  (hblanks : ∀ c ∈ blanks, isBlank c = true)

include hblanks

theorem readArray_open {c : Char} (hblank : isBlank c = false) (hclose : c ≠ ']')
    (cs : List Char) :
    readArray element limit (blanks ++ c :: cs) =
      match element (c :: cs) with
      | .ok (item, rest) => readItems element limit [item] rest
      | .error stop => .error stop := by
  rw [readArray, skipBlanks_append hblanks, skipBlanks_cons hblank]
  split
  · next heq => cases heq
  · next heq => exact absurd (List.cons.inj heq).1 hclose
  · rfl

theorem readItems_close (read : List Json) (rest : List Char) :
    readItems element (limit + 1) read (blanks ++ ']' :: rest) = .ok (.arr read.reverse, rest) := by
  rw [readItems, skipBlanks_append hblanks, skipBlanks_cons (by decide)]
  rfl

theorem readItems_next (read : List Json) {c : Char} (hblank : isBlank c = false)
    (hclose : c ≠ ']') (cs : List Char) :
    readItems element (limit + 1) read (',' :: (blanks ++ c :: cs)) =
      match element (c :: cs) with
      | .ok (item, rest) => readItems element limit (item :: read) rest
      | .error stop => .error stop := by
  rw [readItems, skipBlanks_cons (by decide)]
  simp only
  rw [skipBlanks_append hblanks, skipBlanks_cons hblank]
  split
  · next heq => cases heq
  · next heq => exact absurd (List.cons.inj heq).1 hclose
  · rfl

theorem readObject_open (cs : List Char) :
    readObject element limit (blanks ++ '"' :: cs) =
      match readMember element limit cs with
      | .ok (member, rest) => readMembers element limit limit [member] rest
      | .error stop => .error stop := by
  rw [readObject, skipBlanks_append hblanks, skipBlanks_cons (by decide)]
  rfl

theorem readMembers_close (bound : Nat) (read : List (String × Json)) (rest : List Char) :
    readMembers element bound (limit + 1) read (blanks ++ '}' :: rest) =
      .ok (.obj (Members.ofPairs read.reverse), rest) := by
  rw [readMembers, skipBlanks_append hblanks, skipBlanks_cons (by decide)]
  rfl

theorem readMembers_next (bound : Nat) (read : List (String × Json)) (cs : List Char) :
    readMembers element bound (limit + 1) read (',' :: (blanks ++ '"' :: cs)) =
      match readMember element bound cs with
      | .ok (member, rest) => readMembers element bound limit (member :: read) rest
      | .error stop => .error stop := by
  rw [readMembers, skipBlanks_cons (by decide)]
  simp only
  rw [skipBlanks_append hblanks, skipBlanks_cons (by decide)]
  rfl

end Rounds

/-! Containers. Their elements are read by a reader that takes the text of each
one for what the reader gives with one level less. -/

section Containers

variable {element : List Char → Read} {layout : Layout} {level depth : Nat}

theorem readItems_writeItemsIn {items : List Json}
    (hitems : ∀ item ∈ items,
      ReadsAs element (item.writeIn layout (level + 1)) (item.readWithin? depth))
    {limit : Nat} (hlimit : items.length < limit) (read : List Json) :
    ReadsAs (readItems element limit read) (writeItemsIn layout level items)
      ((readItemsWithin? depth items).map fun items => .arr (read.reverse ++ items)) := by
  induction items generalizing limit read with
  | nil =>
      intro rest hrest
      obtain ⟨limit, rfl⟩ := Nat.exists_eq_add_one.mpr hlimit
      rw [writeItemsIn, List.append_assoc, List.singleton_append,
        readItems_close element limit (layout.gap_blank level)]
      simp [readItemsWithin?, depthItems, readBackItems?, Except.toOption]
  | cons item items ih =>
      intro rest hrest
      obtain ⟨limit, rfl⟩ := Nat.exists_eq_add_one.mpr (Nat.zero_lt_of_lt hlimit)
      obtain ⟨hitem, htail⟩ := List.forall_mem_cons.mp hitems
      obtain ⟨c, cs, htext, hblank, hclose⟩ := writeIn_head item layout (level + 1)
      have hread := hitem (writeItemsIn layout level items ++ rest)
        (writeItemsIn_endsNumber layout level items rest)
      rw [htext, List.cons_append] at hread
      rw [writeItemsIn, htext]
      simp only [List.cons_append, List.append_assoc]
      rw [readItems_next element limit (layout.gap_blank (level + 1)) read hblank hclose,
        readItemsWithin?_cons]
      rcases toOption_eq_map hread with ⟨w, hw, hok⟩ | ⟨hw, stop, herror⟩
      · have hlength : items.length < limit := Nat.lt_of_succ_lt_succ hlimit
        rw [hok, hw]
        simp only [ih htail hlength (w :: read) rest hrest, Option.bind_some, Option.map_map]
        congr 1
        funext items
        simp
      · rw [herror, hw]
        rfl

theorem readArray_writeIn {items : List Json}
    (hitems : ∀ item ∈ items,
      ReadsAs element (item.writeIn layout (level + 1)) (item.readWithin? depth))
    {limit : Nat} (hlimit : (writeIn layout level (.arr items)).length < limit) (rest : List Char)
    (hrest : EndsNumber rest) :
    (readArray element limit ((writeIn layout level (.arr items)).tail ++ rest)).toOption =
      (readWithin? (depth + 1) (.arr items)).map (·, rest) := by
  rw [readWithin?_arr]
  cases items with
  | nil => rfl
  | cons item items =>
      obtain ⟨hitem, htail⟩ := List.forall_mem_cons.mp hitems
      obtain ⟨c, cs, htext, hblank, hclose⟩ := writeIn_head item layout (level + 1)
      have hread := hitem (writeItemsIn layout level items ++ rest)
        (writeItemsIn_endsNumber layout level items rest)
      rw [htext, List.cons_append] at hread
      rw [writeIn, htext, List.tail_cons]
      simp only [List.cons_append, List.append_assoc]
      rw [readArray_open element limit (layout.gap_blank (level + 1)) hblank hclose,
        readItemsWithin?_cons]
      rcases toOption_eq_map hread with ⟨w, hw, hok⟩ | ⟨hw, stop, herror⟩
      · have hlength : items.length < limit := by
          have hitems := length_lt_writeItemsIn layout level items
          simp only [writeIn, List.length_cons, List.length_append] at hlimit
          omega
        rw [hok, hw]
        simp only [readItems_writeItemsIn htail hlength [w] rest hrest, Option.bind_some,
          Option.map_map]
        rfl
      · rw [herror, hw]
        rfl

theorem readMember_write {name : String} {value : Json}
    (hvalue : ReadsAs element (layout.space ++ value.writeIn layout (level + 1))
      (value.readWithin? depth))
    {bound : Nat} (hbound : name.toList.length < bound) {rest : List Char}
    (hrest : EndsNumber rest) :
    (readMember element bound (name.toList.flatMap escape ++ '"' :: ':' ::
        (layout.space ++ (value.writeIn layout (level + 1) ++ rest)))).toOption =
      ((value.readWithin? depth).map fun value => (name, value)).map (·, rest) := by
  have hread := hvalue rest hrest
  rw [List.append_assoc] at hread
  rw [readMember, readCharacters_writeString name hbound]
  simp only
  rw [skipBlanks_cons (by decide)]
  simp only
  rcases toOption_eq_map hread with ⟨w, hw, hok⟩ | ⟨hw, stop, herror⟩
  · rw [hok, hw]
    rfl
  · rw [herror, hw]
    rfl

theorem readMembers_writeMembersIn {members : Members Json} {bound : Nat}
    (hmembers : ∀ member ∈ members,
      ReadsAs element (layout.space ++ member.2.writeIn layout (level + 1))
        (member.2.readWithin? depth))
    (hbound : ∀ member ∈ members, member.1.toList.length < bound)
    {limit : Nat} (hlimit : members.length < limit) (read : List (String × Json)) :
    ReadsAs (readMembers element bound limit read) (writeMembersIn layout level members)
      ((readMembersWithin? depth members).map fun members =>
        .obj (Members.ofPairs (read.reverse ++ members))) := by
  induction members generalizing limit read with
  | nil =>
      intro rest hrest
      obtain ⟨limit, rfl⟩ := Nat.exists_eq_add_one.mpr hlimit
      rw [writeMembersIn, List.append_assoc, List.singleton_append,
        readMembers_close element limit (layout.gap_blank level)]
      simp [readMembersWithin?, depthMembers, readBackMembers?, Except.toOption]
  | cons member members ih =>
      intro rest hrest
      obtain ⟨name, value⟩ := member
      obtain ⟨limit, rfl⟩ := Nat.exists_eq_add_one.mpr (Nat.zero_lt_of_lt hlimit)
      obtain ⟨hvalue, htail⟩ := List.forall_mem_cons.mp hmembers
      obtain ⟨hname, hnames⟩ := List.forall_mem_cons.mp hbound
      have hread := readMember_write hvalue hname
        (writeMembersIn_endsNumber layout level members rest)
      rw [writeMembersIn, writeString]
      simp only [List.cons_append, List.append_assoc, List.nil_append]
      rw [readMembers_next element limit (layout.gap_blank (level + 1)),
        readMembersWithin?_cons]
      rcases toOption_eq_map hread with ⟨w, hw, hok⟩ | ⟨hw, stop, herror⟩
      · obtain ⟨value', hvalue', rfl⟩ := Option.map_eq_some_iff.mp hw
        have hlength : members.length < limit := Nat.lt_of_succ_lt_succ hlimit
        rw [hok, hvalue']
        simp only [ih htail hnames hlength ((name, value') :: read) rest hrest,
          Option.bind_some, Option.map_map]
        congr 1
        funext members
        simp
      · rw [herror, Option.map_eq_none_iff.mp hw]
        rfl

theorem names_readMembersWithin? {members read : Members Json}
    (h : readMembersWithin? depth members = some read) : read.names = members.names := by
  rw [readMembersWithin?, Option.ite_none_right_eq_some] at h
  exact names_readBackMembers? h.2

theorem readObject_writeIn {members : Members Json} (hdistinct : members.Distinct)
    (hmembers : ∀ member ∈ members,
      ReadsAs element (layout.space ++ member.2.writeIn layout (level + 1))
        (member.2.readWithin? depth))
    {limit : Nat} (hlimit : (writeIn layout level (.obj members)).length < limit)
    (rest : List Char) (hrest : EndsNumber rest) :
    (readObject element limit ((writeIn layout level (.obj members)).tail ++ rest)).toOption =
      (readWithin? (depth + 1) (.obj members)).map (·, rest) := by
  rw [readWithin?_obj]
  cases members with
  | nil => rfl
  | cons member members =>
      obtain ⟨name, value⟩ := member
      obtain ⟨hvalue, htail⟩ := List.forall_mem_cons.mp hmembers
      simp only [writeIn, List.length_cons, List.length_append] at hlimit
      have hname : name.toList.length < limit := by
        have hname := length_writeString name
        omega
      have hnames : ∀ member ∈ members, member.1.toList.length < limit := by
        intro member hmember
        have hlength := (length_member_lt layout level hmember).1
        omega
      have hlength : members.length < limit := by
        have hmembers := length_lt_writeMembersIn layout level members
        omega
      have hread := readMember_write hvalue hname
        (writeMembersIn_endsNumber layout level members rest)
      rw [writeIn, List.tail_cons, writeString]
      simp only [List.cons_append, List.append_assoc, List.nil_append]
      rw [readObject_open element limit (layout.gap_blank (level + 1))]
      rcases toOption_eq_map hread with ⟨w, hw, hok⟩ | ⟨hw, stop, herror⟩
      · obtain ⟨value', hvalue', rfl⟩ := Option.map_eq_some_iff.mp hw
        rw [hok]
        simp only [readMembers_writeMembersIn htail hnames hlength [(name, value')] rest hrest]
        rw [readMembersWithin?_cons, hvalue', Option.bind_some, Option.map_map, Option.map_map]
        cases hall : readMembersWithin? depth members with
        | none => rfl
        | some read =>
            have hread : Members.Distinct ((name, value') :: read) := by
              rw [Members.Distinct, Members.names_cons, names_readMembersWithin? hall]
              exact hdistinct
            simp only [Option.map_some, Function.comp_apply, List.reverse_singleton,
              List.singleton_append, Members.ofPairs_of_distinct hread]
      · rw [herror, readMembersWithin?_cons, Option.map_eq_none_iff.mp hw]
        rfl

end Containers

theorem writeIn_tail_arr (layout : Layout) (level : Nat) (items : List Json) :
    writeIn layout level (.arr items) = '[' :: (writeIn layout level (.arr items)).tail := by
  cases items <;> rfl

theorem writeIn_tail_obj (layout : Layout) (level : Nat) (members : Members Json) :
    writeIn layout level (.obj members) = '{' :: (writeIn layout level (.obj members)).tail := by
  cases members <;> rfl

theorem readValue_scalar {c : Char} (hblank : isBlank c = false) (harray : c ≠ '[')
    (hobject : c ≠ '{') (limit depth : Nat) (cs : List Char) :
    readValue limit depth (c :: cs) = readScalar limit (c :: cs) := by
  cases depth with
  | zero =>
      rw [readValue, skipBlanks_cons hblank]
      split
      · next heq => exact absurd (List.cons.inj heq).1 harray
      · next heq => exact absurd (List.cons.inj heq).1 hobject
      · rfl
  | succ depth =>
      rw [readValue, skipBlanks_cons hblank]
      split
      · next heq => exact absurd (List.cons.inj heq).1 harray
      · next heq => exact absurd (List.cons.inj heq).1 hobject
      · rfl

theorem readScalar_writeScalar {v : Json} (hv : v.WellFormed) (hscalar : v.isContainer = false)
    {limit : Nat} (hlimit : v.writeScalar.length < limit) :
    ReadsAs (readScalar limit) v.writeScalar v.readBack? := by
  cases hv with
  | null => exact fun rest _ => rfl
  | bool b => cases b <;> exact fun rest _ => rfl
  | num hrange => exact readScalar_writeNumber hrange limit
  | str s =>
      intro rest hrest
      have hlength : s.toList.length < limit := by
        have hs := length_writeString s
        simp only [writeScalar] at hlimit
        omega
      have hread := readCharacters_writeString s hlength rest
      simp only [writeScalar, writeString, List.cons_append, List.append_assoc, List.nil_append,
        readScalar, hread]
      rfl
  | arr => cases hscalar
  | obj => cases hscalar

theorem readValue_writeScalar {v : Json} (hv : v.WellFormed) (hscalar : v.isContainer = false)
    {limit : Nat} (hlimit : v.writeScalar.length < limit) (depth : Nat) :
    ReadsAs (readValue limit depth) v.writeScalar (v.readWithin? depth) := by
  intro rest hrest
  have hread := readScalar_writeScalar hv hscalar hlimit rest hrest
  have hhead : ∃ c cs, v.writeScalar = c :: cs ∧ isBlank c = false ∧ c ≠ '[' ∧ c ≠ '{' := by
    cases hv with
    | null => exact ⟨'n', _, rfl, by decide, by decide, by decide⟩
    | bool b => cases b <;> exact ⟨_, _, rfl, by decide, by decide, by decide⟩
    | str s => exact ⟨'"', _, rfl, by decide, by decide, by decide⟩
    | arr => cases hscalar
    | obj => cases hscalar
    | num hrange =>
        rename_i n
        obtain ⟨c, cs, htext, hblank, -⟩ := writeIn_head (.num n) .compact 0
        obtain ⟨d, ds, hnumber, hd⟩ := writeNumber_head n
        have hcd : c = d := by
          have heq : c :: cs = d :: ds := htext.symm.trans hnumber
          exact (List.cons.inj heq).1
        refine ⟨c, cs, htext, hblank, ?_, ?_⟩
        · rintro rfl
          rcases hd with hd | hd
          · exact absurd (hcd ▸ hd) (by decide)
          · exact absurd (hcd.trans hd) (by decide)
        · rintro rfl
          rcases hd with hd | hd
          · exact absurd (hcd ▸ hd) (by decide)
          · exact absurd (hcd.trans hd) (by decide)
  obtain ⟨c, cs, htext, hblank, harray, hobject⟩ := hhead
  rw [readWithin?_scalar hscalar]
  rw [htext, List.cons_append] at hread ⊢
  rw [readValue_scalar hblank harray hobject]
  exact hread

/-- The text of a document, in either layout, is read as what the document is read
back as, if it is not nested too deep. -/
theorem readValue_writeIn {v : Json} (hv : v.WellFormed) (layout : Layout) {limit : Nat}
    (depth level : Nat) (hlimit : (v.writeIn layout level).length < limit) :
    ReadsAs (readValue limit depth) (v.writeIn layout level) (v.readWithin? depth) := by
  -- The depth that is left goes down and the level goes up with every container, so
  -- both vary in the induction.
  induction hv generalizing depth level with
  | null => exact readValue_writeScalar .null rfl hlimit depth
  | bool b =>
      rw [writeIn_scalar rfl] at hlimit ⊢
      exact readValue_writeScalar (.bool b) rfl hlimit depth
  | num hrange => exact readValue_writeScalar (.num hrange) rfl hlimit depth
  | str s => exact readValue_writeScalar (.str s) rfl hlimit depth
  | @arr items hitems ih =>
      intro rest hrest
      cases depth with
      | zero =>
          rw [readWithin?_zero rfl, writeIn_tail_arr, List.cons_append, readValue,
            skipBlanks_cons (by decide)]
          rfl
      | succ depth =>
          have hall : ∀ item ∈ items, ReadsAs (readValue limit depth)
              (item.writeIn layout (level + 1)) (item.readWithin? depth) := by
            intro item hitem
            apply ih item hitem
            have hlength := length_item_le layout level hitem
            omega
          rw [← readArray_writeIn hall hlimit rest hrest, writeIn_tail_arr, List.cons_append,
            readValue, skipBlanks_cons (by decide)]
          rfl
  | @obj members hdistinct hmembers ih =>
      intro rest hrest
      cases depth with
      | zero =>
          rw [readWithin?_zero rfl, writeIn_tail_obj, List.cons_append, readValue,
            skipBlanks_cons (by decide)]
          rfl
      | succ depth =>
          have hall : ∀ member ∈ members, ReadsAs (readValue limit depth)
              (layout.space ++ member.2.writeIn layout (level + 1))
              (member.2.readWithin? depth) := by
            intro member hmember rest hrest
            have hlength := length_value_le layout level hmember
            rw [List.append_assoc, readValue_append layout.space_blank]
            exact ih member hmember depth (level + 1) (by omega) rest hrest
          rw [← readObject_writeIn hdistinct hall hlimit rest hrest, writeIn_tail_obj,
            List.cons_append, readValue, skipBlanks_cons (by decide)]
          rfl

theorem parse_writeIn {v : Json} (hv : v.WellFormed) (layout : Layout) (level : Nat)
    {trail : List Char} (htrail : ∀ c ∈ trail, isBlank c = true) :
    (parse (String.ofList (v.writeIn layout level ++ trail))).toOption =
      v.readWithin? depthLimit := by
  have hrest : EndsNumber trail := by
    rw [← List.append_nil trail]
    exact endsNumber_blanks htrail endsNumber_nil
  have hskip : skipBlanks trail = [] := by
    rw [← List.append_nil trail, skipBlanks_append htrail]
    rfl
  have hlimit : (v.writeIn layout level).length <
      (v.writeIn layout level ++ trail).length + 1 := by
    rw [List.length_append]
    omega
  have hread := readValue_writeIn hv layout depthLimit level hlimit trail hrest
  rw [parse, toOption_mapError, String.toList_ofList, readDocument]
  rcases toOption_eq_map hread with ⟨w, hw, hok⟩ | ⟨hw, stop, herror⟩
  · rw [hok, hw]
    simp only [hskip]
    rfl
  · rw [herror, hw]
    rfl

theorem parse_compact {v : Json} (hv : v.WellFormed) :
    (parse v.compact).toOption = v.readWithin? depthLimit := by
  have hparse := parse_writeIn hv .compact 0 (List.forall_mem_nil _)
  rw [List.append_nil, ← write_eq_writeIn] at hparse
  exact hparse

theorem parse_pretty_line {v : Json} (hv : v.WellFormed) :
    (parse (v.pretty ++ "\n")).toOption = v.readWithin? depthLimit := by
  have hblank : ∀ c ∈ ['\n'], isBlank c = true := List.forall_mem_singleton.mpr rfl
  have hparse := parse_writeIn hv .pretty 0 hblank
  rw [← writePretty_eq_writeIn, String.ofList_append] at hparse
  exact hparse

theorem parse_compact_eq_iff {v : Json} (hv : v.WellFormed) (hdepth : v.depth ≤ depthLimit) :
    parse v.compact = .ok v ↔ v.ReadsBack := by
  rw [← toOption_eq_some, parse_compact hv, readWithin?, if_pos hdepth]
  rfl

theorem parse_compact_eq {v : Json} (hv : v.WellFormed) (hdepth : v.depth ≤ depthLimit)
    (hback : v.ReadsBack) : parse v.compact = .ok v :=
  (parse_compact_eq_iff hv hdepth).mpr hback

end HttpScenario.Json
