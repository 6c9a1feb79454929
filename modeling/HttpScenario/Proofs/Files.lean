import HttpScenario.Files
import HttpScenario.Proofs.Results
import Mathlib.Data.List.Basic

namespace HttpScenario.Files

theorem find?_setEntry_self (location : Location) (content : FileEntry)
    (entries : List (Location × FileEntry)) :
    (setEntry location content entries).find? (fun entry => entry.1 == location) =
      some (location, content) := by
  induction entries with
  | nil => simp [setEntry]
  | cons entry rest ih =>
      rw [setEntry]
      split
      · simp
      · next hne => simp [hne, ih]

theorem find?_setEntry_of_ne {location other : Location} (h : other ≠ location)
    (content : FileEntry) (entries : List (Location × FileEntry)) :
    (setEntry location content entries).find? (fun entry => entry.1 == other) =
      entries.find? (fun entry => entry.1 == other) := by
  induction entries with
  | nil => simp [setEntry, Ne.symm h]
  | cons entry rest ih =>
      rw [setEntry]
      split
      · next heq => simp [heq, Ne.symm h]
      · rw [List.find?_cons, List.find?_cons, ih]

theorem find?_set_self {files : Files} {location : Location} (h : location ≠ [])
    (content : FileEntry) : (files.set location content).find? location = some content := by
  rw [find?, if_neg (by simpa using h), set, find?_setEntry_self]
  rfl

theorem find?_set_of_ne {files : Files} {location other : Location} (h : other ≠ location)
    (content : FileEntry) : (files.set location content).find? other = files.find? other := by
  rw [find?, find?, set, find?_setEntry_of_ne h]

theorem follow_of_directories {files others : Files}
    (h : ∀ location, files.find? location = some .directory →
      others.find? location = some .directory)
    {location : Location} {names : List String} {reached : Location}
    (hfollow : files.follow location names = .ok reached) :
    others.follow location names = .ok reached := by
  induction names generalizing location with
  | nil => exact hfollow
  | cons name names ih =>
      rw [follow] at hfollow ⊢
      cases hentry : files.find? location with
      | none =>
          rw [hentry] at hfollow
          cases hfollow
      | some entry =>
          rw [hentry] at hfollow
          cases entry with
          | file bytes => cases hfollow
          | directory =>
              rw [h location hentry]
              simp only at hfollow ⊢
              split_ifs at hfollow ⊢ with hstay hup hlong
              · exact ih hfollow
              · exact ih hfollow
              · exact ih hfollow

theorem locate_of_directories {files others : Files} (hstart : others.workplace = files.workplace)
    (h : ∀ location, files.find? location = some .directory →
      others.find? location = some .directory)
    {path : String} {reached : Location} (hlocate : files.locate path = .ok reached) :
    others.locate path = .ok reached := by
  rw [locate] at hlocate ⊢
  split_ifs at hlocate ⊢
  rw [start, hstart]
  exact follow_of_directories h hlocate

theorem writeText_eq_ok {files written : Files} {path text : String}
    (h : files.writeText path text = .ok written) :
    ∃ location, files.locate path = .ok location ∧ location ≠ [] ∧
      files.find? location ≠ some .directory ∧
      written = files.set location (.file text.toUTF8) := by
  rw [writeText, writeBytes] at h
  cases hlocate : files.locate path with
  | error fault =>
      rw [hlocate] at h
      cases h
  | ok location =>
      simp only [hlocate, bind, Except.bind] at h
      split at h
      · cases h
      · next hentry =>
          refine ⟨location, rfl, ?_, hentry, (Except.ok.inj h).symm⟩
          rintro rfl
          exact hentry rfl

theorem locate_of_writeText_of_ok {files written : Files} {path text other : String}
    {reached : Location} (h : files.writeText path text = .ok written)
    (hother : files.locate other = .ok reached) : written.locate other = .ok reached := by
  obtain ⟨location, -, -, hentry, rfl⟩ := writeText_eq_ok h
  have hdirectories : ∀ other, files.find? other = some .directory →
      (files.set location (.file text.toUTF8)).find? other = some .directory := by
    intro other hother
    have hne : other ≠ location := by
      rintro rfl
      exact hentry hother
    rw [find?_set_of_ne hne]
    exact hother
  have hstart : (files.set location (.file text.toUTF8)).workplace = files.workplace := rfl
  exact locate_of_directories hstart hdirectories hother

theorem locate_of_writeText {files written : Files} {path text : String}
    (h : files.writeText path text = .ok written) :
    written.locate path = files.locate path := by
  obtain ⟨location, hlocate, -⟩ := writeText_eq_ok h
  rw [hlocate]
  exact locate_of_writeText_of_ok h hlocate

theorem fromUTF8?_toUTF8 (text : String) : String.fromUTF8? text.toUTF8 = some text := by
  rw [String.toUTF8_eq_toByteArray, String.fromUTF8?, dif_pos text.isValidUTF8]
  rfl

theorem readText_of_file {files : Files} {path text : String} {location : Location}
    (hlocate : files.locate path = .ok location)
    (hfile : files.find? location = some (.file text.toUTF8)) :
    files.readText path = .ok text := by
  simp only [readText, readBytes, hlocate, bind, Except.bind, hfile, fromUTF8?_toUTF8]

theorem readText_of_writeText {files written : Files} {path text : String}
    (h : files.writeText path text = .ok written) : written.readText path = .ok text := by
  have hsame := locate_of_writeText h
  obtain ⟨location, hlocate, hne, -, rfl⟩ := writeText_eq_ok h
  exact readText_of_file (hsame.trans hlocate) (find?_set_self hne _)

theorem exists_writeText_of_readText {files : Files} {path content : String}
    (h : files.readText path = .ok content) (text : String) :
    ∃ written, files.writeText path text = .ok written := by
  simp only [readText, readBytes, bind_eq_ok] at h
  obtain ⟨bytes, ⟨location, hlocate, hbytes⟩, -⟩ := h
  rw [writeText, writeBytes, hlocate]
  simp only [bind, Except.bind]
  split
  · next hdirectory =>
      rw [hdirectory] at hbytes
      cases hbytes
  · exact ⟨_, rfl⟩

theorem readText_of_locate {files : Files} {path other : String}
    (h : files.locate path = files.locate other) : files.readText path = files.readText other := by
  rw [readText, readText, readBytes, readBytes, h]

theorem writeText_of_locate {files : Files} {path other : String}
    (h : files.locate path = files.locate other) (text : String) :
    files.writeText path text = files.writeText other text := by
  rw [writeText, writeText, writeBytes, writeBytes, h]

theorem setEntry_setEntry (location : Location) (old content : FileEntry)
    (entries : List (Location × FileEntry)) :
    setEntry location content (setEntry location old entries) =
      setEntry location content entries := by
  induction entries with
  | nil => simp [setEntry]
  | cons entry rest ih =>
      by_cases h : entry.1 = location
      · simp [setEntry, h]
      · simp [setEntry, h, ih]

theorem writeText_writeText {files written again : Files} {path text other : String}
    (h : files.writeText path text = .ok written)
    (hagain : written.writeText path other = .ok again) :
    files.writeText path other = .ok again := by
  have hsame := locate_of_writeText h
  obtain ⟨location, hlocate, -, hentry, rfl⟩ := writeText_eq_ok h
  obtain ⟨reached, hreached, -, -, rfl⟩ := writeText_eq_ok hagain
  cases (hsame.trans hlocate).symm.trans hreached
  have hset : (files.set location (.file text.toUTF8)).set location (.file other.toUTF8) =
      files.set location (.file other.toUTF8) :=
    congrArg (Files.mk · files.workplace) (setEntry_setEntry _ _ _ _)
  rw [hset, writeText, writeBytes, hlocate]
  simp only [bind, Except.bind]

theorem find?_of_writeText {files written : Files} {path text : String}
    (h : files.writeText path text = .ok written) {location other : Location}
    (hlocate : files.locate path = .ok location) (hne : other ≠ location) :
    written.find? other = files.find? other := by
  obtain ⟨reached, hreached, -, -, rfl⟩ := writeText_eq_ok h
  cases hlocate.symm.trans hreached
  exact find?_set_of_ne hne _

end HttpScenario.Files
