import HttpScenario.Http.Exchange
import HttpScenario.Proofs.Results
import HttpScenario.Proofs.Table
import HttpScenario.Proofs.Text.Utf8

namespace HttpScenario

/-! The headers of a request are made ready all together or not at all. Of names that differ in
case only, the last one in the order of bytes counts, and of entries that are not legal the
first one is told. -/

namespace Header

open Text

variable {name value : String} {entry : String × String} {entries : List (String × String)}
  {ready built headers : Table String} {fault : HeaderFault}

def TokenByte (b : UInt8) : Prop :=
  48 ≤ b ∧ b ≤ 57 ∨ 65 ≤ b ∧ b ≤ 90 ∨ 97 ≤ b ∧ b ≤ 122 ∨
    b ∈ [33, 35, 36, 37, 38, 39, 42, 43, 45, 46, 94, 95, 96, 124, 126]

instance : DecidablePred TokenByte := fun _ => inferInstanceAs (Decidable (_ ∨ _))

def ValueByte (b : UInt8) : Prop := b = 9 ∨ 32 ≤ b ∧ b ≠ 127

instance : DecidablePred ValueByte := fun _ => inferInstanceAs (Decidable (_ ∨ _))

structure LegalName (name : String) : Prop where
  nonempty : 1 ≤ (bytes name).length
  short : (bytes name).length ≤ 65535
  token : ∀ b ∈ bytes name, TokenByte b

def LegalValue (value : String) : Prop := ∀ b ∈ bytes value, ValueByte b

theorem toNat_lt_of_isTokenChar {c : Char} (h : isTokenChar c = true) : c.toNat < 0x80 := by
  have hupper : c.isUpper = true ↔ 65 ≤ c.toNat ∧ c.toNat ≤ 90 := decide_eq_true_iff
  have hlower : c.isLower = true ↔ 97 ≤ c.toNat ∧ c.toNat ≤ 122 :=
    Bool.and_eq_true_iff.trans (and_congr decide_eq_true_iff decide_eq_true_iff)
  have hdigit : c.isDigit = true ↔ 48 ≤ c.toNat ∧ c.toNat ≤ 57 :=
    Bool.and_eq_true_iff.trans (and_congr decide_eq_true_iff decide_eq_true_iff)
  rcases Bool.or_eq_true_iff.mp h with h | h
  · rcases Bool.or_eq_true_iff.mp h with h | h
    · rcases Bool.or_eq_true_iff.mp h with h | h
      · have hrange := hupper.mp h
        omega
      · have hrange := hlower.mp h
        omega
    · have hrange := hdigit.mp h
      omega
  · have hascii : "!#$%&'*+-.^_`|~".toList.all (·.toNat < 0x80) = true := rfl
    exact of_decide_eq_true (List.all_eq_true.mp hascii c (List.contains_iff_mem.mp h))

theorem not_tokenByte {b : UInt8} (h : 0x80 ≤ b.toNat) : ¬ TokenByte b := by
  simp only [TokenByte, UInt8.le_iff_toNat_le, UInt8.reduceToNat, List.mem_cons,
    ← UInt8.toNat_inj, List.not_mem_nil, or_false]
  omega

theorem isLegalName_iff : isLegalName name = true ↔ LegalName name := by
  have htoken : (∀ b ∈ bytes name, TokenByte b) ↔ ∀ c ∈ name.toList, isTokenChar c = true := by
    apply forall_bytes_iff False
    · decide +kernel
    · exact fun b hb => iff_false_intro (not_tokenByte hb)
    · exact fun c hc => iff_false_intro fun h => Nat.not_lt_of_le hc (toNat_lt_of_isTokenChar h)
  have hempty : name.isEmpty = false ↔ 1 ≤ (bytes name).length := by
    rw [length_bytes, Nat.one_le_iff_ne_zero, Ne, String.utf8ByteSize_eq_zero_iff,
      ← String.isEmpty_iff, Bool.not_eq_true]
  simp only [isLegalName, Bool.and_eq_true, Bool.not_eq_true', hempty, decide_eq_true_eq,
    List.all_eq_true, ← htoken, ← length_bytes]
  exact ⟨fun ⟨⟨hempty, hshort⟩, htoken⟩ => ⟨hempty, hshort, htoken⟩,
    fun ⟨hempty, hshort, htoken⟩ => ⟨⟨hempty, hshort⟩, htoken⟩⟩

theorem isLegalValue_iff : isLegalValue value = true ↔ LegalValue value := by
  rw [isLegalValue, List.all_eq_true]
  symm
  apply forall_bytes_iff True
  · decide +kernel
  · intro b hb
    have hvalue : 32 ≤ b.toNat ∧ b.toNat ≠ 127 := by omega
    exact iff_true_intro (.inr ⟨hvalue.1, fun heq => hvalue.2 (congrArg UInt8.toNat heq)⟩)
  · intro c hc
    simp only [Bool.or_eq_true, beq_iff_eq, Bool.and_eq_true, decide_eq_true_eq, bne_iff_ne,
      ne_eq, iff_true]
    omega

def Accepts (entry : String × String) : Prop :=
  entry.1 ≠ "" → LegalName entry.1 ∧ LegalValue entry.2

/-- What is wrong with an entry. Its value is looked at only if its name is legal. -/
inductive Rejects : String × String → HeaderFault → Prop where
  | name {name value : String} (hne : name ≠ "") (hname : ¬ LegalName name) :
      Rejects (name, value) (.illegalName name)
  | value {name value : String} (hname : LegalName name) (hvalue : ¬ LegalValue value) :
      Rejects (name, value) (.illegalValue name)

theorem LegalName.ne_empty (h : LegalName name) : name ≠ "" := by
  rintro rfl
  exact absurd h.nonempty (by decide)

theorem Rejects.not_accepts (h : Rejects entry fault) : ¬ Accepts entry := by
  cases h with
  | name hne hname => exact fun haccepts => hname (haccepts hne).1
  | value hname hvalue => exact fun haccepts => hvalue (haccepts hname.ne_empty).2

theorem accepts_or_rejects (entry : String × String) :
    Accepts entry ∨ ∃ fault, Rejects entry fault := by
  by_cases hne : entry.1 = ""
  · exact .inl fun h => absurd hne h
  · by_cases hname : LegalName entry.1
    · by_cases hvalue : LegalValue entry.2
      · exact .inl fun _ => ⟨hname, hvalue⟩
      · exact .inr ⟨_, .value hname hvalue⟩
    · exact .inr ⟨_, .name hne hname⟩

def addOne (ready : Table String) (entry : String × String) : Table String :=
  if entry.1 = "" then ready else ready.insert (lower entry.1) entry.2

theorem addAll_of_accepts (h : Accepts entry) :
    addAll ready (entry :: entries) = addAll (addOne ready entry) entries := by
  rw [addAll, addOne]
  by_cases hne : entry.1 = ""
  · rw [if_pos hne, if_pos (String.isEmpty_iff.mpr hne)]
  · obtain ⟨hname, hvalue⟩ := h hne
    rw [if_neg hne, if_neg (by simpa using hne), isLegalName_iff.mpr hname,
      isLegalValue_iff.mpr hvalue]
    rfl

theorem addAll_of_rejects (h : Rejects entry fault) :
    addAll ready (entry :: entries) = .error fault := by
  cases h with
  | @name name value hne hname =>
      have hillegal : isLegalName name = false :=
        Bool.eq_false_iff.mpr (isLegalName_iff.not.mpr hname)
      rw [addAll, if_neg (by simpa using hne), hillegal]
      rfl
  | @value name value hname hvalue =>
      have hillegal : isLegalValue value = false :=
        Bool.eq_false_iff.mpr (isLegalValue_iff.not.mpr hvalue)
      rw [addAll, if_neg (by simpa using hname.ne_empty), isLegalName_iff.mpr hname, hillegal]
      rfl

theorem addAll_of_all_accepted (h : ∀ entry ∈ entries, Accepts entry) (ready : Table String) :
    addAll ready entries = .ok (entries.foldl addOne ready) := by
  induction entries generalizing ready with
  | nil => rfl
  | cons entry entries ih =>
      obtain ⟨hentry, hentries⟩ := List.forall_mem_cons.mp h
      rw [addAll_of_accepts hentry, ih hentries, List.foldl_cons]

structure FirstRejected (entries : List (String × String)) (fault : HeaderFault)
    (entry : String × String) : Prop where
  mem : entry ∈ entries
  rejected : Rejects entry fault
  before : ∀ other ∈ entries, bytes other.1 < bytes entry.1 → Accepts other

theorem addAll_cases (hsorted : entries.Pairwise fun a b => a.1 < b.1) (ready : Table String) :
    (∀ entry ∈ entries, Accepts entry) ∨
      ∃ fault entry, addAll ready entries = .error fault ∧ FirstRejected entries fault entry := by
  induction entries generalizing ready with
  | nil => exact .inl (List.forall_mem_nil _)
  | cons entry entries ih =>
      obtain ⟨hbehind, hsorted⟩ := List.pairwise_cons.mp hsorted
      rcases accepts_or_rejects entry with haccepts | ⟨fault, hrejects⟩
      · rcases ih hsorted (addOne ready entry) with hall | ⟨fault, bad, hfault, hfirst⟩
        · exact .inl (List.forall_mem_cons.mpr ⟨haccepts, hall⟩)
        · rw [← addAll_of_accepts haccepts] at hfault
          refine .inr ⟨fault, bad, hfault, List.mem_cons_of_mem _ hfirst.mem, hfirst.rejected, ?_⟩
          intro other hother hlt
          rcases List.mem_cons.mp hother with rfl | hother
          · exact haccepts
          · exact hfirst.before other hother hlt
      · refine .inr ⟨fault, entry, addAll_of_rejects hrejects, List.mem_cons_self, hrejects, ?_⟩
        intro other hother hlt
        rcases List.mem_cons.mp hother with rfl | hother
        · exact absurd hlt (List.lt_irrefl _)
        · exact absurd hlt (List.lt_asymm (lt_iff_bytes_lt.mp (hbehind other hother)))

def Spells (name : String) (entry : String × String) : Prop :=
  entry.1 ≠ "" ∧ lower entry.1 = name

instance (name : String) : DecidablePred (Spells name) :=
  fun _ => inferInstanceAs (Decidable (_ ∧ _))

theorem find?_foldl_addOne (entries : List (String × String)) (name : String) :
    (entries.foldl addOne ∅).find? name =
      (entries.filter (Spells name ·)).getLast?.map Prod.snd := by
  induction entries using List.reverseRecOn with
  | nil => rfl
  | append_singleton entries entry ih =>
      rw [List.foldl_append, List.foldl_cons, List.foldl_nil, List.filter_append, addOne]
      by_cases h : Spells name entry
      · rw [if_neg h.1, Table.find?_insert, if_pos h.2.symm]
        simp [h]
      · rw [List.filter_cons_of_neg (by simpa using h), List.filter_nil, List.append_nil, ← ih]
        split
        · rfl
        · next hne => rw [Table.find?_insert, if_neg fun heq => h ⟨hne, heq.symm⟩]

/-- The headers that are sent have each name that is spelled, with the value of the spelling that
is greatest by its bytes. -/
structure Resolves (headers built : Table String) : Prop where
  names : ∀ name, built.contains name = true ↔ ∃ entry ∈ headers.entries, Spells name entry
  values : ∀ name value, built.find? name = some value ↔
    ∃ entry ∈ headers.entries, Spells name entry ∧ entry.2 = value ∧
      ∀ other ∈ headers.entries, Spells name other →
        other = entry ∨ bytes other.1 < bytes entry.1

theorem foldl_addOne_resolves (headers : Table String) :
    Resolves headers (headers.entries.foldl addOne ∅) where
  names name := by
    rw [Table.contains, find?_foldl_addOne, Option.isSome_map, List.getLast?_isSome, Ne,
      List.filter_eq_nil_iff]
    simp
  values name value := by
    have hsorted := headers.sorted.filter fun entry => decide (Spells name entry)
    simp only [find?_foldl_addOne, Option.map_eq_some_iff, Table.getLast?_eq_some_iff hsorted,
      List.mem_filter, decide_eq_true_eq, lt_iff_bytes_lt]
    constructor
    · rintro ⟨entry, ⟨⟨hmem, hspells⟩, hgreatest⟩, hvalue⟩
      exact ⟨entry, hmem, hspells, hvalue, fun other hother h => hgreatest other ⟨hother, h⟩⟩
    · rintro ⟨entry, hmem, hspells, hvalue, hgreatest⟩
      exact ⟨entry, ⟨⟨hmem, hspells⟩, fun other h => hgreatest other h.1 h.2⟩, hvalue⟩

theorem perform_of_build_error (h : build headers = .error fault) {call : Call}
    (hcall : call.request.headers = headers) (server : Server) (base : String) :
    Exchange.perform server base call = (.error (.header fault), []) := by
  have hpending : Exchange.pendingOf base call = .error (.header fault) := by
    rw [Exchange.pendingOf, hcall, h]
    rfl
  rw [Exchange.perform, hpending]

/-- Headers are sent if each of them that has a name is legal. Otherwise the first one that is
not is told, and nothing is sent. -/
theorem build_all_or_nothing (headers : Table String) :
    ((∃ built, build headers = .ok built) ↔
        ∀ entry ∈ headers.entries, entry.1 ≠ "" → LegalName entry.1 ∧ LegalValue entry.2) ∧
      (∀ built, build headers = .ok built → Resolves headers built) ∧
      ∀ fault, build headers = .error fault →
        (∃ entry, FirstRejected headers.entries fault entry) ∧
          ∀ server base call, call.request.headers = headers →
            Exchange.perform server base call = (.error (.header fault), []) := by
  rcases addAll_cases headers.sorted ∅ with hall | ⟨fault, entry, hfault, hfirst⟩
  · have hbuilt := addAll_of_all_accepted hall ∅
    refine ⟨iff_of_true ⟨_, hbuilt⟩ hall, ?_, ?_⟩
    · intro built h
      cases hbuilt.symm.trans h
      exact foldl_addOne_resolves headers
    · intro fault h
      cases hbuilt.symm.trans h
  · refine ⟨iff_of_false ?_ ?_, ?_, ?_⟩
    · intro ⟨built, h⟩
      cases hfault.symm.trans h
    · exact fun hall => hfirst.rejected.not_accepts (hall entry hfirst.mem)
    · intro built h
      cases hfault.symm.trans h
    · intro fault' h
      cases hfault.symm.trans h
      exact ⟨⟨entry, hfirst⟩, fun server base call hcall =>
        perform_of_build_error hfault hcall server base⟩

theorem build_two_spellings_and_a_blank :
    Resolves (Table.ofList [("", "\n"), ("X-Trace", "1"), ("x-trace", "2")])
        (Table.ofList [("x-trace", "2")]) ∧
      ∃ entry, FirstRejected
        (Table.ofList [("b", "\n"), ("a", "1"), ("a b", "\n")]).entries (.illegalName "a b") entry := by
  constructor
  · exact (build_all_or_nothing _).2.1 _ rfl
  · exact ((build_all_or_nothing _).2.2 _ rfl).1

end Header

end HttpScenario
