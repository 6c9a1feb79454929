import HttpScenario.Text.Utf8
import Mathlib.Data.String.Basic

namespace HttpScenario.Text

/-! The bytes of a text. A character that is not ASCII has bytes above the ASCII ones only, and
bytes come in the order of the characters. -/

variable {text other : String}

def bytes (text : String) : List UInt8 := encodeUtf8 text.toList

theorem toByteArray_eq (text : String) : text.toByteArray = (bytes text).toByteArray := by
  conv => lhs; rw [← String.ofList_toList (s := text), String.toByteArray_ofList]
  rfl

theorem length_bytes (text : String) : (bytes text).length = text.utf8ByteSize := by
  rw [String.utf8ByteSize, toByteArray_eq, List.size_toByteArray]

section Layout

variable {v w n : Nat} {before after : List UInt8}

def followers (v : Nat) : Nat :=
  if v ≤ 0x7F then 0 else if v ≤ 0x7FF then 1 else if v ≤ 0xFFFF then 2 else 3

/-- The first byte apart from the bits of the character that it holds. -/
def leadMark : Nat → Nat
  | 0 => 0
  | 1 => 0xC0
  | 2 => 0xE0
  | _ => 0xF0

def lead (v : Nat) : Nat := leadMark (followers v) + v / 64 ^ followers v

def continuation : Nat → Nat → List UInt8
  | 0, _ => []
  | n + 1, v => UInt8.ofNat (v / 64 ^ n % 64 + 0x80) :: continuation n v

theorem lead_cases (v : Nat) :
    followers v = 0 ∧ lead v = v ∧ v ≤ 0x7F ∨
      followers v = 1 ∧ lead v = 0xC0 + v / 64 ∧ 0x7F < v ∧ v ≤ 0x7FF ∨
      followers v = 2 ∧ lead v = 0xE0 + v / 4096 ∧ 0x7FF < v ∧ v ≤ 0xFFFF ∨
      followers v = 3 ∧ lead v = 0xF0 + v / 262144 ∧ 0xFFFF < v := by
  have hfollowers : followers v = 0 ∧ v ≤ 0x7F ∨ followers v = 1 ∧ 0x7F < v ∧ v ≤ 0x7FF ∨
      followers v = 2 ∧ 0x7FF < v ∧ v ≤ 0xFFFF ∨ followers v = 3 ∧ 0xFFFF < v := by
    unfold followers
    split_ifs <;> omega
  rcases hfollowers with ⟨h, hv⟩ | ⟨h, hv⟩ | ⟨h, hv⟩ | ⟨h, hv⟩ <;>
    simp [lead, leadMark, h, hv]

theorem toNat_le (c : Char) : c.toNat ≤ 0x10FFFF := by
  have hvalid : c.toNat < 0xD800 ∨ 0xDFFF < c.toNat ∧ c.toNat < 0x110000 := c.valid
  omega

theorem lead_lt (hv : v ≤ 0x10FFFF) : lead v < 256 := by
  rcases lead_cases v with h | h | h | h <;> omega

theorem lead_lt_or_eq (h : v < w) :
    lead v < lead w ∨ lead v = lead w ∧ followers v = followers w ∧
      v / 64 ^ followers v = w / 64 ^ followers v := by
  have hsame : followers v = followers w → v / 64 ^ followers v ≤ w / 64 ^ followers v :=
    fun _ => Nat.div_le_div_right (Nat.le_of_lt h)
  by_cases heq : followers v = followers w
  · rw [lead, lead, ← heq]
    omega
  · rcases lead_cases v with hv | hv | hv | hv <;> rcases lead_cases w with hw | hw | hw | hw <;>
      omega

theorem utf8EncodeChar_eq (c : Char) :
    String.utf8EncodeChar c =
      UInt8.ofNat (lead c.toNat) :: continuation (followers c.toNat) c.toNat := by
  have hle := toNat_le c
  have hval : c.val.toNat = c.toNat := rfl
  simp only [String.utf8EncodeChar, hval]
  rcases lead_cases c.toNat with ⟨hn, hlead, h⟩ | ⟨hn, hlead, h⟩ | ⟨hn, hlead, h⟩ |
    ⟨hn, hlead, h⟩
  · rw [hn, hlead, if_pos h]
    rfl
  · rw [hn, hlead, if_neg (by omega), if_pos h.2, Nat.mod_eq_of_lt (by omega), Nat.add_comm]
    simp [continuation]
  · rw [hn, hlead, if_neg (by omega), if_neg (by omega), if_pos h.2,
      Nat.mod_eq_of_lt (by omega : c.toNat / 4096 < 16), Nat.add_comm]
    simp [continuation]
  · rw [hn, hlead, if_neg (by omega), if_neg (by omega), if_neg (by omega),
      Nat.mod_eq_of_lt (by omega : c.toNat / 262144 < 8), Nat.add_comm]
    simp [continuation]

theorem le_of_mem_continuation {b : UInt8} (h : b ∈ continuation n v) : 0x80 ≤ b.toNat := by
  induction n with
  | zero => cases h
  | succ n ih =>
      rcases List.mem_cons.mp h with rfl | h
      · rw [UInt8.toNat_ofNat']
        omega
      · exact ih h

theorem continuation_append_lt (h : v < w) (hsame : v / 64 ^ n = w / 64 ^ n)
    (before after : List UInt8) :
    continuation n v ++ before < continuation n w ++ after := by
  induction n with
  | zero => simp at hsame; omega
  | succ n ih =>
      rw [Nat.pow_succ, ← Nat.div_div_eq_div_mul, ← Nat.div_div_eq_div_mul] at hsame
      have hle : v / 64 ^ n ≤ w / 64 ^ n := Nat.div_le_div_right (Nat.le_of_lt h)
      rw [continuation, continuation, List.cons_append, List.cons_append, List.cons_lt_cons_iff]
      rcases Nat.lt_or_eq_of_le hle with hlt | heq
      · refine .inl (UInt8.lt_iff_toNat_lt.mpr ?_)
        rw [UInt8.toNat_ofNat', UInt8.toNat_ofNat']
        omega
      · exact .inr ⟨by rw [heq], ih heq⟩

end Layout

variable {c d : Char}

theorem utf8EncodeChar_of_lt (h : c.toNat < 0x80) :
    String.utf8EncodeChar c = [UInt8.ofNat c.toNat] :=
  if_pos (Nat.le_of_lt_succ h)

theorem utf8EncodeChar_ofNat {n : Nat} (h : n < 0x80) :
    String.utf8EncodeChar (Char.ofNat n) = [UInt8.ofNat n] := by
  revert n
  decide +kernel

theorem le_of_mem_utf8EncodeChar {b : UInt8} (h : 0x80 ≤ c.toNat)
    (hb : b ∈ String.utf8EncodeChar c) : 0x80 ≤ b.toNat := by
  rw [utf8EncodeChar_eq] at hb
  rcases List.mem_cons.mp hb with rfl | hb
  · have hlt := lead_lt (toNat_le c)
    rw [UInt8.toNat_ofNat', Nat.mod_eq_of_lt hlt]
    rcases lead_cases c.toNat with h | h | h | h <;> omega
  · exact le_of_mem_continuation hb

theorem utf8EncodeChar_append_lt (h : c < d) (before after : List UInt8) :
    String.utf8EncodeChar c ++ before < String.utf8EncodeChar d ++ after := by
  have hlt : c.toNat < d.toNat := h
  rw [utf8EncodeChar_eq, utf8EncodeChar_eq, List.cons_append, List.cons_append,
    List.cons_lt_cons_iff]
  rcases lead_lt_or_eq hlt with hlead | ⟨hlead, hfollowers, hsame⟩
  · refine .inl (UInt8.lt_iff_toNat_lt.mpr ?_)
    rwa [UInt8.toNat_ofNat', UInt8.toNat_ofNat', Nat.mod_eq_of_lt (lead_lt (toNat_le c)),
      Nat.mod_eq_of_lt (lead_lt (toNat_le d))]
  · rw [hlead, ← hfollowers]
    exact .inr ⟨rfl, continuation_append_lt hlt hsame before after⟩

theorem encodeUtf8_cons (c : Char) (cs : List Char) :
    encodeUtf8 (c :: cs) = String.utf8EncodeChar c ++ encodeUtf8 cs := List.flatMap_cons

theorem encodeUtf8_lt {cs ds : List Char} (h : cs < ds) : encodeUtf8 cs < encodeUtf8 ds := by
  induction cs generalizing ds with
  | nil =>
      cases ds with
      | nil => exact absurd h (List.lt_irrefl [])
      | cons d ds =>
          rw [encodeUtf8_cons, utf8EncodeChar_eq]
          exact List.nil_lt_cons _ _
  | cons c cs ih =>
      cases ds with
      | nil => exact absurd h (List.not_lt_nil _)
      | cons d ds =>
          rw [encodeUtf8_cons, encodeUtf8_cons]
          rcases List.cons_lt_cons_iff.mp h with hlt | ⟨rfl, hlt⟩
          · exact utf8EncodeChar_append_lt hlt _ _
          · exact List.append_left_lt (ih hlt)

theorem lt_iff_bytes_lt : text < other ↔ bytes text < bytes other := by
  rw [String.lt_iff_toList_lt]
  constructor
  · exact encodeUtf8_lt
  · intro h
    rcases Std.lt_trichotomy text.toList other.toList with hlt | heq | hgt
    · exact hlt
    · rw [bytes, heq] at h
      exact absurd h (List.lt_irrefl _)
    · exact absurd (encodeUtf8_lt hgt) (List.lt_asymm h)

theorem bytes_ofList_ofNat {value : List UInt8} (h : ∀ b ∈ value, b.toNat < 0x80) :
    bytes (String.ofList (value.map fun b => Char.ofNat b.toNat)) = value := by
  rw [bytes, String.toList_ofList]
  induction value with
  | nil => rfl
  | cons b value ih =>
      obtain ⟨hb, hvalue⟩ := List.forall_mem_cons.mp h
      rw [List.map_cons, encodeUtf8_cons, utf8EncodeChar_ofNat hb, ih hvalue, UInt8.ofNat_toNat]
      rfl

theorem forall_bytes_iff {P : UInt8 → Prop} {Q : Char → Prop} (high : Prop)
    (hascii : ∀ n < 0x80, Q (Char.ofNat n) ↔ P (UInt8.ofNat n))
    (hbyte : ∀ b : UInt8, 0x80 ≤ b.toNat → (P b ↔ high))
    (hchar : ∀ c : Char, 0x80 ≤ c.toNat → (Q c ↔ high)) :
    (∀ b ∈ bytes text, P b) ↔ ∀ c ∈ text.toList, Q c := by
  have hone (c : Char) : (∀ b ∈ String.utf8EncodeChar c, P b) ↔ Q c := by
    rcases Nat.lt_or_ge c.toNat 0x80 with hlt | hge
    · rw [utf8EncodeChar_of_lt hlt, List.forall_mem_singleton, ← hascii _ hlt, Char.ofNat_toNat]
    · rw [hchar c hge]
      constructor
      · intro h
        have hfirst : UInt8.ofNat (lead c.toNat) ∈ String.utf8EncodeChar c := by
          rw [utf8EncodeChar_eq]
          exact List.mem_cons_self
        exact (hbyte _ (le_of_mem_utf8EncodeChar hge hfirst)).mp (h _ hfirst)
      · exact fun h b hb => (hbyte b (le_of_mem_utf8EncodeChar hge hb)).mpr h
  rw [bytes, encodeUtf8, List.forall_mem_flatMap]
  exact forall₂_congr fun c _ => hone c

end HttpScenario.Text
