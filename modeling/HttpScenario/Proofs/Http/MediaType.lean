import HttpScenario.Http.Message
import HttpScenario.Proofs.Table
import HttpScenario.Proofs.Text.Blank
import HttpScenario.Proofs.Text.Break

namespace HttpScenario

open Text

variable {media cs ds before after : List Char} {text : String}

/-- The media types of JSON documents, in any letter case and with blanks around them. -/
inductive NamesJson : List Char → Prop where
  | whole {before name after : List Char} (hbefore : ∀ c ∈ before, isBlank c = true)
      (hafter : ∀ c ∈ after, isBlank c = true)
      (hname : List.Forall₂ SameLetter name "application/json".toList) :
      NamesJson (before ++ name ++ after)
  | suffix {kind suffix after : List Char} (hafter : ∀ c ∈ after, isBlank c = true)
      (hsuffix : List.Forall₂ SameLetter suffix "+json".toList) :
      NamesJson (kind ++ suffix ++ after)

def comparedForm (media : List Char) : List Char := (trimBlanks media).map Char.toLower

theorem comparedForm_padded (hbefore : ∀ c ∈ before, isBlank c = true)
    (hafter : ∀ c ∈ after, isBlank c = true) (hcase : List.Forall₂ SameLetter cs ds) :
    comparedForm (before ++ cs ++ after) = comparedForm ds := by
  rw [comparedForm, comparedForm, trimBlanks_padded hbefore hafter, ← trimBlanks_map_toLower,
    ← trimBlanks_map_toLower, sameLetters_iff.mp hcase]

theorem namesJson_iff : NamesJson media ↔
    comparedForm media = "application/json".toList ∨ "+json".toList <:+ comparedForm media := by
  constructor
  · intro h
    cases h with
    | whole hbefore hafter hname => exact .inl (comparedForm_padded hbefore hafter hname)
    | @suffix kind suffix after hafter hsuffix =>
        have hcase : List.Forall₂ SameLetter (kind ++ suffix) (kind ++ "+json".toList) := by
          rw [sameLetters_iff, List.map_append, List.map_append, sameLetters_iff.mp hsuffix]
        have hform := comparedForm_padded (List.forall_mem_nil _) hafter hcase
        rw [List.nil_append] at hform
        have hsolid : ∀ c ∈ "+json".toList, isBlank c = false :=
          fun c hc => Bool.eq_false_iff.mpr (List.any_eq_false.mp rfl c hc)
        rw [hform]
        exact .inr ((suffix_trimBlanks (by decide) hsolid kind).map Char.toLower)
  · obtain ⟨before, after, hpadded, hbefore, hafter⟩ := exists_padding media
    rw [comparedForm]
    generalize trimBlanks media = trimmed at hpadded
    subst hpadded
    rintro (hwhole | ⟨front, hsuffix⟩)
    · exact .whole hbefore hafter (sameLetters_iff.mpr hwhole)
    · obtain ⟨kind, suffix, rfl, -, hword⟩ := List.map_eq_append_iff.mp hsuffix.symm
      have hnames : NamesJson ((before ++ kind) ++ suffix ++ after) :=
        .suffix hafter (sameLetters_iff.mpr hword)
      rwa [List.append_assoc before kind suffix] at hnames

theorem isJsonContentType_iff :
    isJsonContentType text = true ↔ NamesJson (text.toList.takeWhile (· != ';')) := by
  rw [namesJson_iff, isJsonContentType, Bool.or_eq_true, beq_iff_eq, List.isSuffixOf_iff_suffix]
  rfl

theorem Reply.isJson_iff {reply : Reply} : reply.isJson = true ↔
    ∃ contentType, ("content-type", contentType) ∈ reply.headers.entries ∧
      NamesJson (contentType.toList.takeWhile (· != ';')) := by
  simp only [isJson, contentType?, Option.any_eq_true, Table.mem_entries_iff,
    isJsonContentType_iff]

theorem isJsonContentType_of_plain (h : ';' ∉ text.toList) :
    isJsonContentType text = true ↔ NamesJson text.toList := by
  rw [isJsonContentType_iff, List.takeWhile_eq_self_iff.mpr (bne_of_not_mem h)]

theorem isJsonContentType_parameters (h : ';' ∉ text.toList) (parameters : String) :
    isJsonContentType (text ++ ";" ++ parameters) = true ↔ NamesJson text.toList := by
  have htext : (text ++ ";" ++ parameters).toList = text.toList ++ ';' :: parameters.toList := by
    simp
  rw [isJsonContentType_iff, htext, takeWhile_break h]

theorem lower_trim_eq (text : String) :
    lower (trim text) = String.ofList (comparedForm text.toList) := by
  rw [lower, trim, String.toList_ofList, comparedForm]

theorem comparedForm_eq_iff {name : String} :
    comparedForm text.toList = name.toList ↔ lower (trim text) = name := by
  rw [lower_trim_eq, ← String.toList_inj, String.toList_ofList]

theorem suffix_comparedForm_iff {suffix : String} :
    suffix.toList <:+ comparedForm text.toList ↔ ∃ kind, lower (trim text) = kind ++ suffix := by
  rw [lower_trim_eq]
  constructor
  · intro ⟨kind, hkind⟩
    exact ⟨String.ofList kind, by rw [← hkind, String.ofList_append, String.ofList_toList]⟩
  · intro ⟨kind, hkind⟩
    refine ⟨kind.toList, ?_⟩
    rw [← String.toList_append, ← hkind, String.toList_ofList]

/-- A media type without parameters is JSON by what it is in small letters and without blanks
around it. Blanks, another case of its letters and any parameters leave the answer as it is. -/
theorem isJsonContentType_padded {mediaType recased before after : String}
    (hplain : ';' ∉ mediaType.toList)
    (hcase : List.Forall₂ SameLetter recased.toList mediaType.toList)
    (hbefore : ∀ c ∈ before.toList, isBlank c = true)
    (hafter : ∀ c ∈ after.toList, isBlank c = true) :
    isJsonContentType (before ++ recased ++ after) = isJsonContentType mediaType ∧
      (∀ parameters : String, isJsonContentType (before ++ recased ++ after ++ ";" ++ parameters) =
        isJsonContentType mediaType) ∧
      (isJsonContentType mediaType = true ↔ lower (trim mediaType) = "application/json" ∨
        ∃ kind, lower (trim mediaType) = kind ++ "+json") ∧
      (isJsonContentType mediaType = true ↔ NamesJson mediaType.toList) := by
  have hmedia := isJsonContentType_of_plain hplain
  have hpadded : ';' ∉ (before ++ recased ++ after).toList := by
    have hsolid : ∀ {blanks : List Char}, (∀ c ∈ blanks, isBlank c = true) → ';' ∉ blanks :=
      fun hblanks hmem => absurd (hblanks _ hmem) (by decide)
    have hrecased : ';' ∉ recased.toList := mt (mem_of_sameLetters (by decide) hcase) hplain
    simp [hsolid hbefore, hsolid hafter, hrecased]
  have hnames : NamesJson (before ++ recased ++ after).toList ↔ NamesJson mediaType.toList := by
    rw [namesJson_iff, namesJson_iff, String.toList_append, String.toList_append,
      comparedForm_padded hbefore hafter hcase]
  refine ⟨?_, fun parameters => ?_, ?_, hmedia⟩
  · rw [Bool.eq_iff_iff, isJsonContentType_of_plain hpadded, hnames, hmedia]
  · rw [Bool.eq_iff_iff, isJsonContentType_parameters hpadded, hnames, hmedia]
  · rw [hmedia, namesJson_iff, comparedForm_eq_iff, suffix_comparedForm_iff]

theorem isJsonContentType_padded_problem :
    isJsonContentType "\u3000Application/Problem+JSON\t;q=text/plain;" = true ∧
      isJsonContentType "TEXT/plain ;+json" = false := by
  have hproblem : List.Forall₂ SameLetter "Application/Problem+JSON".toList
      "application/problem+json".toList := sameLetters_iff.mpr (by decide)
  have htext : List.Forall₂ SameLetter "TEXT/plain".toList "text/plain".toList :=
    sameLetters_iff.mpr (by decide)
  have hwide : ∀ c ∈ "\u3000".toList, isBlank c = true := List.all_eq_true.mp rfl
  have htab : ∀ c ∈ "\t".toList, isBlank c = true := List.all_eq_true.mp rfl
  have hnone : ∀ c ∈ "".toList, isBlank c = true := List.all_eq_true.mp rfl
  have hspace : ∀ c ∈ " ".toList, isBlank c = true := List.all_eq_true.mp rfl
  obtain ⟨-, hparameters, -, hjson⟩ :=
    isJsonContentType_padded (by decide) hproblem hwide htab
  obtain ⟨-, hplain, -, -⟩ :=
    isJsonContentType_padded (by decide) htext hnone hspace
  constructor
  · have hnames : NamesJson ("application/problem".toList ++ "+json".toList ++ []) :=
      .suffix (List.forall_mem_nil _) (sameLetters_iff.mpr rfl)
    exact (hparameters "q=text/plain;").trans (hjson.mpr hnames)
  · exact (hplain "+json").trans (by decide)

end HttpScenario
