import HttpScenario.Http.Header
import HttpScenario.Proofs.Table
import HttpScenario.Proofs.Text.Break

namespace HttpScenario.Header

/-! The line of the cookies of a request is read back as what it was made of, if no sign that
parts cookies stands in a name or a value, and none that parts a name from its value in a name. -/

variable {c : Char} {part : List Char} {parts : List (List Char)} {cookie : String × String}
  {cookies other : Table String} {line : String}

/-- The parts of a line, with a semicolon and a space between them. -/
def lineParts : List Char → List (List Char)
  | [] => [[]]
  | ';' :: ' ' :: rest => [] :: lineParts rest
  | c :: rest => (lineParts rest).modifyHead (c :: ·)

def cutPart (part : List Char) : String × String :=
  (String.ofList (part.takeWhile (· != '=')), String.ofList (part.dropWhile (· != '=')).tail)

def readCookies (line : String) : List (String × String) :=
  (lineParts line.toList).map cutPart

structure PlainCookie (cookie : String × String) : Prop where
  name_uncut : '=' ∉ cookie.1.toList
  name_unparted : ';' ∉ cookie.1.toList
  value_unparted : ';' ∉ cookie.2.toList

def cookieText (cookie : String × String) : List Char :=
  cookie.1.toList ++ '=' :: cookie.2.toList

theorem lineParts_cons (h : c ≠ ';') (rest : List Char) :
    lineParts (c :: rest) = (lineParts rest).modifyHead (c :: ·) := by
  rw [lineParts]
  intro _ hc
  exact absurd hc h

theorem lineParts_of_unparted (h : ';' ∉ part) : lineParts part = [part] := by
  induction part with
  | nil => rfl
  | cons c part ih =>
      obtain ⟨hc, hpart⟩ := not_or.mp (mt List.mem_cons.mpr h)
      rw [lineParts_cons (Ne.symm hc), ih hpart]
      rfl

theorem lineParts_append (h : ';' ∉ part) (rest : List Char) :
    lineParts (part ++ ';' :: ' ' :: rest) = part :: lineParts rest := by
  induction part with
  | nil => rfl
  | cons c part ih =>
      obtain ⟨hc, hpart⟩ := not_or.mp (mt List.mem_cons.mpr h)
      rw [List.cons_append, lineParts_cons (Ne.symm hc), ih hpart]
      rfl

theorem lineParts_intercalate (hne : parts ≠ []) (h : ∀ part ∈ parts, ';' ∉ part) :
    lineParts ([';', ' '].intercalate parts) = parts := by
  induction parts with
  | nil => exact absurd rfl hne
  | cons part parts ih =>
      obtain ⟨hpart, hrest⟩ := List.forall_mem_cons.mp h
      by_cases hlast : parts = []
      · rw [hlast, List.intercalate_singleton, lineParts_of_unparted hpart]
      · rw [List.intercalate_cons_of_ne_nil hlast, List.append_assoc]
        exact (lineParts_append hpart _).trans (congrArg _ (ih hlast hrest))

theorem PlainCookie.unparted (h : PlainCookie cookie) : ';' ∉ cookieText cookie := by
  rw [cookieText, List.mem_append, List.mem_cons]
  rintro (hname | heq | hvalue)
  · exact h.name_unparted hname
  · cases heq
  · exact h.value_unparted hvalue

theorem PlainCookie.cutPart_cookieText (h : PlainCookie cookie) :
    cutPart (cookieText cookie) = cookie := by
  rw [cutPart, cookieText, Text.takeWhile_break h.name_uncut, Text.dropWhile_break h.name_uncut,
    List.tail_cons, String.ofList_toList, String.ofList_toList]

theorem cookieLine_eq_none_iff : cookieLine cookies = none ↔ cookies = ∅ := by
  rw [cookieLine]
  constructor
  · intro h
    split at h
    · next hempty => exact Table.ext (List.isEmpty_iff.mp hempty)
    · cases h
  · rintro rfl
    rfl

theorem toList_of_cookieLine (h : cookieLine cookies = some line) :
    cookies.entries ≠ [] ∧
      line.toList = [';', ' '].intercalate (cookies.entries.map cookieText) := by
  have htexts : cookies.entries.map (String.toList ∘ fun cookie => cookie.1 ++ "=" ++ cookie.2) =
      cookies.entries.map cookieText :=
    List.map_congr_left fun cookie _ => by simp [cookieText]
  rw [cookieLine] at h
  split at h
  · cases h
  · next hempty =>
      cases h
      rw [String.toList_intercalate, List.map_map, htexts]
      exact ⟨mt List.isEmpty_iff.mpr hempty, rfl⟩

theorem readCookies_cookieLine (hplain : ∀ cookie ∈ cookies.entries, PlainCookie cookie)
    (h : cookieLine cookies = some line) : readCookies line = cookies.entries := by
  obtain ⟨hne, hline⟩ := toList_of_cookieLine h
  have hunparted : ∀ part ∈ cookies.entries.map cookieText, ';' ∉ part :=
    List.forall_mem_map.mpr fun cookie hcookie => (hplain cookie hcookie).unparted
  have hcut : cookies.entries.map (cutPart ∘ cookieText) = cookies.entries.map id :=
    List.map_congr_left fun cookie hcookie => (hplain cookie hcookie).cutPart_cookieText
  rw [readCookies, hline, lineParts_intercalate (mt List.map_eq_nil_iff.mp hne) hunparted,
    List.map_map, hcut, List.map_id]

/-- There is a line for all cookies but none at all. It is read back as the cookies that it was
made of, each of them once and in the order of their names, so other cookies have another line. -/
theorem cookieLine_determines (hplain : ∀ cookie ∈ cookies.entries, PlainCookie cookie) :
    (cookieLine cookies = none ↔ cookies = ∅) ∧
      (∀ line, cookieLine cookies = some line → readCookies line = cookies.entries) ∧
      ∀ other : Table String, (∀ cookie ∈ other.entries, PlainCookie cookie) →
        cookieLine other = cookieLine cookies → other = cookies := by
  refine ⟨cookieLine_eq_none_iff, fun _ => readCookies_cookieLine hplain, ?_⟩
  intro other hother heq
  cases hline : cookieLine cookies with
  | none => rw [cookieLine_eq_none_iff.mp hline, cookieLine_eq_none_iff.mp (heq.trans hline)]
  | some line =>
      apply Table.ext
      rw [← readCookies_cookieLine hplain hline, readCookies_cookieLine hother (heq.trans hline)]

/-- Cookies whose values part other cookies can have the line of those. -/
example : cookieLine (Table.ofList [("a", "1; b=2")]) =
    cookieLine (Table.ofList [("a", "1"), ("b", "2")]) := by decide

/-- An empty name and an empty value, a name that begins with a space, and values with an equals
sign or spaces at their end. -/
def oddCookies (name : String) : Table String :=
  Table.ofList [("", "a=b"), (name, ""), ("y", "  ")]

theorem oddCookies_plain {name : String} (h : PlainCookie (name, "")) :
    ∀ cookie ∈ (oddCookies name).entries, PlainCookie cookie := by
  have hall : ∀ cookie ∈ [("", "a=b"), (name, ""), ("y", "  ")], PlainCookie cookie := by
    simp only [List.forall_mem_cons]
    exact ⟨⟨by decide, by decide, by decide⟩, h, ⟨by decide, by decide, by decide⟩,
      List.forall_mem_nil _⟩
  exact fun cookie hcookie => hall cookie (Table.mem_of_mem_ofList hcookie)

theorem cookieLine_determines_odd :
    cookieLine (oddCookies " x") = some "=a=b;  x=; y=  " ∧
      readCookies "=a=b;  x=; y=  " = [("", "a=b"), (" x", ""), ("y", "  ")] ∧
      cookieLine (oddCookies "x") ≠ cookieLine (oddCookies " x") := by
  have hspaced : PlainCookie (" x", "") := ⟨by decide, by decide, by decide⟩
  have hbare : PlainCookie ("x", "") := ⟨by decide, by decide, by decide⟩
  obtain ⟨-, hread, hsame⟩ := cookieLine_determines (oddCookies_plain hspaced)
  refine ⟨by decide, hread _ (by decide), fun heq => ?_⟩
  exact absurd (hsame _ (oddCookies_plain hbare) heq) (by decide)

end HttpScenario.Header
