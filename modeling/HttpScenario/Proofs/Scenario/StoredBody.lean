import HttpScenario.Proofs.Files
import HttpScenario.Proofs.Json.Sameness
import HttpScenario.Proofs.Scenario.Reload

namespace HttpScenario

/-! What a stored body stands for when it is resolved again. It stands for what was observed
unless it is a text that looks like a reference, or a document with numbers that are not read
back. -/

theorem Files.readText_of_no_entries (workplace : Location) (path : String) :
    ∃ fault, (⟨[], workplace⟩ : Files).readText path = .error fault := by
  have hnone : ∀ location bytes,
      (⟨[], workplace⟩ : Files).find? location ≠ some (.file bytes) := by
    intro location bytes hfile
    rw [Files.find?] at hfile
    split at hfile
    · cases hfile
    · cases hfile
  cases hread : (⟨[], workplace⟩ : Files).readText path with
  | error fault => exact ⟨fault, rfl⟩
  | ok content =>
      simp only [Files.readText, Files.readBytes, bind_eq_ok] at hread
      obtain ⟨bytes, ⟨location, -, hbytes⟩, -⟩ := hread
      split at hbytes
      · cases hbytes
      · cases hbytes
      · next hfile => exact absurd hfile (hnone _ _)

namespace Reply

variable {reply : Reply} {body : Json}

/-- What a body has to be read as to be what was observed: nothing, a text of the same
document, or the very text. -/
inductive Recalls (reply : Reply) : Option String → Prop where
  | nothing (hempty : reply.text = "") : Recalls reply none
  | document {body read : Json} {text : String} (hdocument : reply.IsDocument body)
      (hparse : Json.parse text = .ok read) (hsame : read.same body = true) :
      Recalls reply (some text)
  | text (hfull : reply.text ≠ "") (hnone : ∀ body, ¬ reply.IsDocument body) :
      Recalls reply (some reply.text)

def Restores (reply : Reply) (result : Except Failure (Option String)) : Prop :=
  ∃ body?, result = .ok body? ∧ reply.Recalls body?

theorem parse_compact_of_isDocument (h : reply.IsDocument body) (read : Json) :
    Json.parse body.compact = .ok read ↔ body.readBack? = some read := by
  have hform : body.WellFormed := Json.wellFormed_of_parse h.json
  have hdepth : body.depth ≤ Json.depthLimit := Json.depth_le_of_parse h.json
  rw [← toOption_eq_some, Json.parse_compact hform, Json.readWithin?, if_pos hdepth]

theorem recalls_document_iff (h : reply.IsDocument body) (text : String) :
    reply.Recalls (some text) ↔
      ∃ read, Json.parse text = .ok read ∧ read.same body = true := by
  constructor
  · generalize htext : some text = body?
    intro hrecalls
    cases hrecalls with
    | nothing hempty => cases htext
    | document hdocument hparse hsame =>
        cases htext
        cases h.unique hdocument
        exact ⟨_, hparse, hsame⟩
    | text hfull hnone => exact absurd h (hnone body)
  · rintro ⟨read, hparse, hsame⟩
    exact .document h hparse hsame

theorem restores_document_iff (h : reply.IsDocument body) (files : Files)
    (directory name field : String) :
    reply.Restores (resolveBody files directory name field (some body)) ↔
      ∃ read, body.readBack? = some read ∧ read.same body = true := by
  have hresolve : resolveBody files directory name field (some body) =
      .ok (some body.compact) := by
    have hcontainer := h.container
    cases body with
    | arr items => rfl
    | obj members => rfl
    | _ => cases hcontainer
  rw [hresolve]
  constructor
  · rintro ⟨body?, hok, hrecalls⟩
    rw [← Except.ok.inj hok, recalls_document_iff h] at hrecalls
    obtain ⟨read, hparse, hsame⟩ := hrecalls
    exact ⟨read, (parse_compact_of_isDocument h read).mp hparse, hsame⟩
  · rintro ⟨read, hread, hsame⟩
    exact ⟨_, rfl, .document h ((parse_compact_of_isDocument h read).mpr hread) hsame⟩

theorem restores_text_iff (hfull : reply.text ≠ "") (hnone : ∀ body, ¬ reply.IsDocument body)
    (name field : String) :
    (∀ files directory,
        reply.Restores (resolveBody files directory name field (some (.str reply.text)))) ↔
      reference? reply.text = none := by
  constructor
  · intro h
    cases hreference : reference? reply.text with
    | none => rfl
    | some relative =>
        -- In a tree without files no reference leads anywhere.
        obtain ⟨body?, hok, -⟩ := h ⟨[], []⟩ ""
        obtain ⟨fault, hfault⟩ := Files.readText_of_no_entries [] (joinPath "" relative)
        simp only [resolveBody, hreference, hfault] at hok
        cases hok
  · intro hreference files directory
    rw [resolveBody, hreference]
    exact ⟨_, rfl, .text hfull hnone⟩

/-- The body that a healed record holds stands for what was observed, whatever files there
are and wherever they are looked up, exactly when the numbers of a document are read back
and a text that is no document is no reference. -/
theorem restores_healed_iff (reply : Reply) (withHeaders : Bool) (record : Members Json)
    (name field : String) :
    (∀ files directory, reply.Restores (resolveBody files directory name field
        ((reply.healRecord withHeaders record).find? Record.Field.response.name))) ↔
      (∀ body, reply.IsDocument body →
        ∃ read, body.readBack? = some read ∧ read.same body = true) ∧
      ((∀ body, ¬ reply.IsDocument body) → reference? reply.text = none) := by
  have hstored := (reply.healRecord_heals withHeaders record).response
  generalize (reply.healRecord withHeaders record).find? Record.Field.response.name = stored
    at hstored ⊢
  cases hstored with
  | nothing hempty =>
      have hnone : ∀ body, ¬ reply.IsDocument body := by
        intro body hdocument
        have hjson := hdocument.json
        rw [json, hempty] at hjson
        cases hjson
      refine iff_of_true (fun files directory => ⟨none, rfl, .nothing hempty⟩) ⟨?_, ?_⟩
      · exact fun body hdocument => absurd hdocument (hnone body)
      · intro _
        rw [hempty]
        rfl
  | document hdocument =>
      simp only [restores_document_iff hdocument]
      constructor
      · intro hread
        refine ⟨fun body hbody => ?_, fun hnone => absurd hdocument (hnone _)⟩
        cases hdocument.unique hbody
        exact hread ⟨[], []⟩ ""
      · rintro ⟨hread, -⟩ files directory
        exact hread _ hdocument
  | text hfull hnone =>
      rw [restores_text_iff hfull hnone]
      constructor
      · exact fun hreference => ⟨fun body hbody => absurd hbody (hnone body), fun _ => hreference⟩
      · exact fun h => h.2 hnone

def plain (text : String) : Reply := ⟨200, ∅, text⟩

theorem not_isDocument_plain (text : String) (body : Json) : ¬ (plain text).IsDocument body := by
  rintro ⟨hsaid, -, -⟩
  cases hsaid

theorem restores_healed_plain :
    (∀ files directory, (plain "ready").Restores (resolveBody files directory "order" "response"
        (((plain "ready").healRecord false []).find? Record.Field.response.name))) ∧
      ¬ ∀ files directory, (plain "file::ready").Restores (resolveBody files directory "order"
        "response" (((plain "file::ready").healRecord false []).find?
          Record.Field.response.name)) := by
  constructor
  · apply (restores_healed_iff (plain "ready") false [] "order" "response").mpr
    refine ⟨fun body hdocument => absurd hdocument (not_isDocument_plain _ body), fun _ => ?_⟩
    decide
  · rw [restores_healed_iff]
    rintro ⟨-, hreference⟩
    exact absurd (hreference (not_isDocument_plain _)) (by decide)

end Reply

end HttpScenario
