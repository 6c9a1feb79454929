import HttpScenario.Proofs.Text.Break
import HttpScenario.Url.Basic

namespace HttpScenario.Url

/-! A base and a URL that are joined. Slashes where the two meet do not matter, and what was
joined to a base with a host is not joined to it again. -/

variable {base url joined : String} {front back : List Char}

def webSchemes : List String := ["http://", "https://"]

def IsAbsolute (url : String) : Prop := ∃ scheme ∈ webSchemes, scheme.toList <+: url.toList

/-- A base with a scheme, and with more than slashes behind it. -/
def NamesHost (base : String) : Prop :=
  ∃ scheme ∈ webSchemes, ∃ rest, base = scheme ++ rest ∧ ∃ c ∈ rest.toList, c ≠ '/'

def slashes (n : Nat) : String := String.ofList (List.replicate n '/')

/-- The slashes at the end of a base and at the beginning of a URL make way for a single one. -/
inductive Joins : String → String → String → Prop where
  | seam {front back : String} (m n : Nat) (hfront : front.toList.getLast? ≠ some '/')
      (hback : back.toList.head? ≠ some '/') :
      Joins (front ++ slashes m) (slashes n ++ back) (front ++ "/" ++ back)

@[simp] theorem toList_slashes (n : Nat) : (slashes n).toList = List.replicate n '/' :=
  String.toList_ofList

theorem slashes_add (m n : Nat) : slashes (m + n) = slashes m ++ slashes n := by
  rw [slashes, slashes, slashes, ← String.ofList_append, List.replicate_append_replicate]

theorem rdropWhile_slashes (h : front.getLast? ≠ some '/') (n : Nat) :
    (front ++ List.replicate n '/').rdropWhile (· == '/') = front := by
  rw [Text.rdropWhile_append_of_pos (by simp), List.rdropWhile_eq_self_iff]
  intro hne hlast
  rw [List.getLast?_eq_some_getLast hne, beq_iff_eq.mp hlast] at h
  exact h rfl

theorem dropWhile_slashes (h : back.head? ≠ some '/') (n : Nat) :
    (List.replicate n '/' ++ back).dropWhile (· == '/') = back := by
  rw [List.dropWhile_append_of_pos (by simp)]
  cases back with
  | nil => rfl
  | cons c back => exact List.dropWhile_cons_of_neg (by simpa using h)

theorem exists_slashes_append (cs : List Char) :
    ∃ n back, cs = List.replicate n '/' ++ back ∧ back.head? ≠ some '/' := by
  induction cs with
  | nil => exact ⟨0, [], rfl, nofun⟩
  | cons c cs ih =>
      by_cases hc : c = '/'
      · obtain ⟨n, back, rfl, hback⟩ := ih
        exact ⟨n + 1, back, by rw [hc]; rfl, hback⟩
      · exact ⟨0, c :: cs, rfl, by simpa using hc⟩

theorem exists_back (url : String) :
    ∃ n back, url = slashes n ++ back ∧ back.toList.head? ≠ some '/' := by
  obtain ⟨n, back, hurl, hback⟩ := exists_slashes_append url.toList
  refine ⟨n, String.ofList back, ?_, by rwa [String.toList_ofList]⟩
  rw [slashes, ← String.ofList_append, ← hurl, String.ofList_toList]

theorem exists_front (base : String) :
    ∃ front m, base = front ++ slashes m ∧ front.toList.getLast? ≠ some '/' := by
  obtain ⟨m, front, hreverse, hhead⟩ := exists_slashes_append base.toList.reverse
  have hbase : base.toList = front.reverse ++ List.replicate m '/' := by
    rw [← List.reverse_reverse base.toList, hreverse, List.reverse_append, List.reverse_replicate]
  refine ⟨String.ofList front.reverse, m, ?_, ?_⟩
  · rw [slashes, ← String.ofList_append, ← hbase, String.ofList_toList]
  · rwa [String.toList_ofList, List.getLast?_reverse]

theorem eq_nil_of_slashes (h : front.getLast? ≠ some '/') (hslashes : ∀ c ∈ front, c = '/') :
    front = [] := by
  by_contra hne
  rw [List.getLast?_eq_some_getLast hne, hslashes _ (List.getLast_mem hne)] at h
  exact h rfl

theorem exists_joins (base url : String) : ∃ joined, Joins base url joined := by
  obtain ⟨front, m, rfl, hfront⟩ := exists_front base
  obtain ⟨n, back, rfl, hback⟩ := exists_back url
  exact ⟨_, .seam m n hfront hback⟩

theorem isAbsolute_iff : IsAbsolute url ↔
    ("http://".toList.isPrefixOf url.toList || "https://".toList.isPrefixOf url.toList) = true := by
  simp [IsAbsolute, webSchemes]

theorem joinBase_of_absolute (h : IsAbsolute url) (base : String) : joinBase base url = url := by
  rw [joinBase, isAbsolute_iff.mp h]
  rfl

theorem joinBase_of_empty (url : String) : joinBase "" url = url := by
  simp [joinBase]

theorem joinBase_of_relative (hbase : base ≠ "") (h : ¬ IsAbsolute url) :
    joinBase base url = String.ofList
      (base.toList.rdropWhile (· == '/') ++ '/' :: url.toList.dropWhile (· == '/')) := by
  rw [joinBase, Bool.eq_false_iff.mpr (mt isAbsolute_iff.mpr h), if_neg (by simpa using hbase)]
  rfl

theorem Joins.joinBase_eq (h : Joins base url joined) (hbase : base ≠ "")
    (hurl : ¬ IsAbsolute url) : joinBase base url = joined := by
  rw [joinBase_of_relative hbase hurl]
  cases h with
  | seam m n hfront hback =>
      rw [String.toList_append, String.toList_append, toList_slashes, toList_slashes,
        rdropWhile_slashes hfront, dropWhile_slashes hback, ← String.toList_inj]
      simp

theorem joinBase_eq_iff (hbase : base ≠ "") (hurl : ¬ IsAbsolute url) :
    joinBase base url = joined ↔ Joins base url joined := by
  constructor
  · rintro rfl
    obtain ⟨joined, hjoins⟩ := exists_joins base url
    rwa [hjoins.joinBase_eq hbase hurl]
  · exact fun h => h.joinBase_eq hbase hurl

theorem Joins.slashes_added (h : Joins base url joined) (m n : Nat) :
    Joins (base ++ slashes m) (slashes n ++ url) joined := by
  cases h with
  | seam k l hfront hback =>
      rw [String.append_assoc, ← slashes_add, ← String.append_assoc, ← slashes_add]
      exact .seam _ _ hfront hback

theorem not_isAbsolute_slashes_succ (n : Nat) (url : String) :
    ¬ IsAbsolute (slashes (n + 1) ++ url) := by
  simp [isAbsolute_iff, List.replicate_succ, List.isPrefixOf]

theorem not_isAbsolute_slashes_append (h : ¬ IsAbsolute url) (n : Nat) :
    ¬ IsAbsolute (slashes n ++ url) := by
  cases n with
  | zero => simpa [slashes] using h
  | succ n => exact not_isAbsolute_slashes_succ n url

theorem joinBase_slashes_added (hbase : base ≠ "") (hurl : ¬ IsAbsolute url) (m n : Nat) :
    joinBase (base ++ slashes m) (slashes n ++ url) = joinBase base url := by
  have hjoins := ((joinBase_eq_iff hbase hurl).mp rfl).slashes_added m n
  apply hjoins.joinBase_eq
  · simp [String.append_eq_empty_iff, hbase]
  · exact not_isAbsolute_slashes_append hurl n

theorem scheme_ends_in_slashes {scheme : String} (h : scheme ∈ webSchemes) :
    ∃ word, scheme.toList = word ++ ['/', '/'] := by
  simp only [webSchemes, List.mem_cons, List.not_mem_nil, or_false] at h
  rcases h with rfl | rfl
  · exact ⟨"http:".toList, rfl⟩
  · exact ⟨"https:".toList, rfl⟩

theorem Joins.isAbsolute (h : Joins base url joined) (hbase : NamesHost base) :
    IsAbsolute joined := by
  obtain ⟨scheme, hscheme, rest, hrest, c, hc, hne⟩ := hbase
  cases h with
  | @seam front back m n hfront hback =>
      have hcut := congrArg String.toList hrest
      rw [String.toList_append, String.toList_append, toList_slashes] at hcut
      rcases List.append_eq_append_iff.mp hcut with ⟨taken, -, htaken⟩ | ⟨below, hbelow, -⟩
      · have hslash : c ∈ List.replicate m '/' := htaken ▸ List.mem_append_right _ hc
        exact absurd (List.eq_of_mem_replicate hslash) hne
      · refine ⟨scheme, hscheme, ?_⟩
        rw [String.toList_append, String.toList_append, hbelow, List.append_assoc,
          List.append_assoc]
        exact List.prefix_append _ _

theorem namesHost_of_isAbsolute {front : String} (hfront : front.toList.getLast? ≠ some '/')
    (h : IsAbsolute (front ++ "/")) (m : Nat) : NamesHost (front ++ slashes m) := by
  obtain ⟨scheme, hscheme, rest, hrest⟩ := h
  obtain ⟨word, hword⟩ := scheme_ends_in_slashes hscheme
  have hslash : (front ++ "/").toList = front.toList ++ ['/'] := String.toList_append
  rw [hslash] at hrest
  rcases List.eq_nil_or_concat rest with rfl | ⟨below, last, rfl⟩
  · have hsame : word ++ ['/'] ++ ['/'] = front.toList ++ ['/'] := by simpa [hword] using hrest
    rw [← (List.append_inj' hsame rfl).1, List.getLast?_concat] at hfront
    exact absurd rfl hfront
  · rw [List.concat_eq_append, ← List.append_assoc] at hrest
    obtain ⟨hsame, -⟩ := List.append_inj' hrest rfl
    refine ⟨scheme, hscheme, String.ofList below ++ slashes m, ?_, ?_⟩
    · rw [← String.append_assoc, ← String.toList_inj]
      simp [← hsame]
    · by_contra! hall
      have hslashes : ∀ c ∈ '/' :: '/' :: below, c = '/' := by
        simp only [List.forall_mem_cons, true_and]
        exact fun c hc => hall c (by simp [hc])
      rw [← hsame, hword, List.append_assoc, List.getLast?_append_of_ne_nil _ (by simp)] at hfront
      exact absurd (eq_nil_of_slashes hfront hslashes) (by simp)

theorem Joins.again (h : Joins base url joined) (hslashes : ∀ c ∈ base.toList, c = '/') :
    Joins base joined joined ∧ ¬ IsAbsolute joined := by
  cases h with
  | @seam front back m n hfront hback =>
      have hnone : front.toList = [] :=
        eq_nil_of_slashes hfront fun c hc => hslashes c (by simp [hc])
      have hjoined : front ++ "/" ++ back = slashes 1 ++ back := by
        rw [String.toList_eq_nil_iff.mp hnone]
        rfl
      constructor
      · have hagain := Joins.seam m 1 hfront hback
        rwa [← hjoined] at hagain
      · rw [hjoined]
        exact not_isAbsolute_slashes_succ 0 back

theorem namesHost_of_again {front : String} (hfront : front.toList.getLast? ≠ some '/')
    (hne : front ≠ "") (m : Nat)
    (h : ∀ url, joinBase (front ++ slashes m) (joinBase (front ++ slashes m) url) =
      joinBase (front ++ slashes m) url) : NamesHost (front ++ slashes m) := by
  have hbase : front ++ slashes m ≠ "" := by simp [String.append_eq_empty_iff, hne]
  have hempty : ¬ IsAbsolute "" := by simp [isAbsolute_iff]
  have hjoins : Joins (front ++ slashes m) (slashes 0 ++ "") (front ++ "/" ++ "") :=
    .seam m 0 hfront nofun
  have hjoined : joinBase (front ++ slashes m) "" = front ++ "/" := by
    simpa [slashes] using hjoins.joinBase_eq hbase (by simpa [slashes] using hempty)
  by_cases hurl : IsAbsolute (front ++ "/")
  · exact namesHost_of_isAbsolute hfront hurl m
  · have hagain := h ""
    rw [hjoined, joinBase_of_relative hbase hurl, ← String.toList_inj] at hagain
    have hdropped : (front ++ "/").toList.dropWhile (· == '/') = [] := by
      simpa [rdropWhile_slashes hfront] using hagain
    have hslashes : ∀ c ∈ front.toList, c = '/' := fun c hc =>
      beq_iff_eq.mp (List.dropWhile_eq_nil_iff.mp hdropped c (by simp [hc]))
    exact absurd (String.toList_eq_nil_iff.mp (eq_nil_of_slashes hfront hslashes)) hne

theorem joinBase_joinBase_iff : (∀ url, joinBase base (joinBase base url) = joinBase base url) ↔
    NamesHost base ∨ ∀ c ∈ base.toList, c = '/' := by
  constructor
  · intro h
    obtain ⟨front, m, rfl, hfront⟩ := exists_front base
    by_cases hne : front = ""
    · exact .inr (by simp [hne])
    · exact .inl (namesHost_of_again hfront hne m h)
  · intro h url
    by_cases hurl : IsAbsolute url
    · rw [joinBase_of_absolute hurl, joinBase_of_absolute hurl]
    · by_cases hempty : base = ""
      · rw [hempty, joinBase_of_empty, joinBase_of_empty]
      · have hjoins := (joinBase_eq_iff hempty hurl).mp rfl
        rcases h with hhost | hslashes
        · exact joinBase_of_absolute (hjoins.isAbsolute hhost) base
        · obtain ⟨hagain, hrelative⟩ := hjoins.again hslashes
          exact hagain.joinBase_eq hempty hrelative

/-- A URL that needs a base is joined to it with one slash, whatever slashes there are where the
two meet. Joining it once more changes nothing exactly if the base has a scheme and a host, or
is made of slashes only. -/
theorem joinBase_one_seam :
    (∀ base url : String, base ≠ "" → ¬ IsAbsolute url →
      (∀ m n, joinBase (base ++ slashes m) (slashes n ++ url) = joinBase base url) ∧
        ∀ joined, joinBase base url = joined ↔ Joins base url joined) ∧
      ∀ base : String, (∀ url, joinBase base (joinBase base url) = joinBase base url) ↔
        NamesHost base ∨ ∀ c ∈ base.toList, c = '/' :=
  ⟨fun _ _ hbase hurl => ⟨joinBase_slashes_added hbase hurl, fun _ => joinBase_eq_iff hbase hurl⟩,
    fun _ => joinBase_joinBase_iff⟩

/-- A base of a scheme and slashes loses those, and what is joined to it is no absolute URL. -/
example : joinBase "http://" "a" = "http:/a" ∧ joinBase "http://" "http:/a" = "http:/http:/a" := by
  decide

theorem joinBase_one_seam_again :
    joinBase "http://h//" "//http://a/" = "http://h/http://a/" ∧
      joinBase "http://h" (joinBase "http://h" "b") = joinBase "http://h" "b" := by
  obtain ⟨hrelative, hagain⟩ := joinBase_one_seam
  have hurl : ¬ IsAbsolute "//http://a/" := by
    rw [isAbsolute_iff]
    decide
  have hjoins : Joins ("http://h" ++ slashes 2) (slashes 2 ++ "http://a/")
      ("http://h" ++ "/" ++ "http://a/") := .seam 2 2 (by decide) (by decide)
  obtain ⟨-, hjoined⟩ := hrelative "http://h//" "//http://a/" (by decide) hurl
  have hhost : NamesHost "http://h" :=
    ⟨"http://", List.mem_cons_self, "h", rfl, 'h', List.mem_cons_self, by decide⟩
  exact ⟨(hjoined _).mpr hjoins, (hagain "http://h").mpr (.inl hhost) "b"⟩

end HttpScenario.Url
