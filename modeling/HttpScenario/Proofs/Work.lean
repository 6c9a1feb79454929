import HttpScenario.Files
import HttpScenario.Proofs.Results

namespace HttpScenario.Work

/-! Work in a tree of files: the tree that is left, and work that leaves the tree as it found it
when it fails. -/

variable {ε δ α β : Type} {work : Work ε α} {files left : Files} {e : ε}

theorem outcome_eq_ok : work.outcome files = .ok left ↔ ∃ a, work files = .ok a left := by
  rw [outcome]
  cases work files with
  | ok a left => exact ⟨fun h => ⟨a, by cases h; rfl⟩, fun ⟨_, h⟩ => by cases h; rfl⟩
  | error e left => exact ⟨nofun, nofun⟩

theorem outcome_read (read : Files → Except ε α) (next : α → Work ε β) (files : Files) :
    (do let a ← ofExcept (read (← get)); next a : Work ε β).outcome files =
      (read files >>= fun a => (next a).outcome files) := by
  change (ofExcept (read files) >>= next : Work ε β).outcome files = _
  cases read files <;> rfl

theorem outcome_ofExcept (result : Except ε α) (next : α → Work ε β) (files : Files) :
    (ofExcept result >>= next : Work ε β).outcome files =
      (result >>= fun a => (next a).outcome files) := by
  cases result <;> rfl

theorem outcome_adaptExcept (f : ε → δ) (work : Work ε α) (files : Files) :
    Work.outcome (EStateM.adaptExcept f work) files = (work.outcome files).mapError f := by
  rw [outcome, outcome, EStateM.adaptExcept]
  cases work files <;> rfl

theorem outcome_writeText (path text : String) (files : Files) :
    (writeText path text).outcome files = files.writeText path text := by
  rw [outcome, writeText]
  cases files.writeText path text <;> rfl

/-- Work that changes nothing unless it succeeds. -/
def AllOrNothing (work : Work ε α) : Prop :=
  ∀ files e left, work files = .error e left → left = files

namespace AllOrNothing

theorem read (read : Files → Except ε α) {next : α → Work ε β}
    (h : ∀ a, (next a).AllOrNothing) :
    AllOrNothing (do let a ← ofExcept (read (← get)); next a) := by
  intro files e left herror
  change (ofExcept (read files) >>= next : Work ε β) files = _ at herror
  cases hread : read files with
  | ok a =>
      rw [hread] at herror
      exact h a files e left herror
  | error e =>
      rw [hread] at herror
      cases herror
      rfl

theorem ofExcept (result : Except ε α) {next : α → Work ε β} (h : ∀ a, (next a).AllOrNothing) :
    AllOrNothing (ofExcept result >>= next) := by
  intro files e left herror
  cases result with
  | ok a => exact h a files e left herror
  | error e =>
      cases herror
      rfl

theorem adaptExcept (h : work.AllOrNothing) (f : ε → δ) :
    AllOrNothing (EStateM.adaptExcept f work) := by
  intro files e left herror
  rw [EStateM.adaptExcept] at herror
  cases hwork : work files with
  | ok a after =>
      rw [hwork] at herror
      cases herror
  | error e after =>
      rw [hwork] at herror
      cases herror
      exact h files e left hwork

theorem writeText (path text : String) : (writeText path text).AllOrNothing := by
  intro files e left herror
  rw [Work.writeText] at herror
  cases hwrite : files.writeText path text with
  | ok written =>
      rw [hwrite] at herror
      cases herror
  | error fault =>
      rw [hwrite] at herror
      cases herror
      rfl

theorem of_outcome_error (h : work.AllOrNothing) (herror : work.outcome files = .error e) :
    work files = .error e files := by
  rw [outcome] at herror
  cases hwork : work files with
  | ok a left =>
      rw [hwork] at herror
      cases herror
  | error e left =>
      rw [hwork] at herror
      cases herror
      rw [h files e left hwork]

end AllOrNothing

theorem left_of_outcome_ok (h : work.outcome files = .ok left) : work.left files = left := by
  obtain ⟨a, hwork⟩ := outcome_eq_ok.mp h
  rw [Work.left, hwork]

theorem AllOrNothing.left_of_outcome_error (h : work.AllOrNothing)
    (herror : work.outcome files = .error e) : work.left files = files := by
  rw [Work.left, h.of_outcome_error herror]

end HttpScenario.Work
