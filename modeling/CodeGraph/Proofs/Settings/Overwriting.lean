import CodeGraph.Proofs.Settings.Containment

/-! What a change makes of a settings file in which there is no table. -/
namespace CodeGraph.Store

variable {toml : Toml.Library} {home : SettingsHome} {content : Bytes} {c : Change}

/-- What a file holds when a table was put in its place: the text of the table, or nothing if there
is no such text. -/
def written (toml : Toml.Library) (table : Toml.Table) : Bytes :=
  match toml.dump table with
  | .ok t => Utf8.encode t
  | .error _ => []

theorem home_replace (h : IsFree home) (table : Toml.Table) :
    (replace toml home table).home = .folder (.file (written toml table)) := by
  rw [replace_of_isFree h, written]
  cases toml.dump table <;> rfl

/-- A change breaks off where the file is no text with a table or a complaint about it. -/
theorem attempt_of_not_isReadable (h : ¬IsReadable toml home) (c : Change) :
    ∃ fault, c.attempt toml home = ⟨home, .error fault, []⟩ := by
  rw [c.attempt_eq]
  cases hload : load toml home with
  | ok loaded => exact absurd ((load_ends_iff toml home).mp ⟨loaded, hload⟩) h
  | error fault => exact ⟨fault, change_of_fault hload⟩

/-- Where a file without a table can be read, a change starts from the empty table. -/
theorem home_attempt_of_isReadable (h : IsReadable toml home) (hfree : IsFree home)
    (hunusable : ∀ table, ¬HasTable toml home table) (c : Change) :
    (c.attempt toml home).home = .folder (.file (written toml (c.edit []))) := by
  obtain ⟨⟨table, notices⟩, hload⟩ := (load_ends_iff toml home).mpr h
  obtain rfl := (hasTable_or_empty hload).resolve_left (hunusable table)
  rw [c.attempt_eq, change_of_load hload]
  exact home_replace hfree _

/-- A settings file without a table in it is either no text that can be judged, and then a change
breaks off and leaves everything as it was; or there is a complaint about it, and then nothing of it
is left: the file holds what the change makes of an empty table. -/
theorem attempt_of_unusable (hhome : home = .folder (.file content))
    (hunusable : ∀ table, ¬HasTable toml home table) (c : Change) :
    (¬IsReadable toml home → ∃ fault, c.attempt toml home = ⟨home, .error fault, []⟩) ∧
    (IsReadable toml home →
      (c.attempt toml home).home = .folder (.file (written toml (c.edit [])))) ∧
    ((c.attempt toml home).home = home ↔
      ¬IsReadable toml home ∨ content = written toml (c.edit [])) := by
  subst hhome
  have hbreaks := fun h : ¬IsReadable toml (.folder (.file content)) =>
    attempt_of_not_isReadable h c
  have hstarts := fun h => home_attempt_of_isReadable h (isFree_file content) hunusable c
  refine ⟨hbreaks, hstarts, ?_⟩
  by_cases hreadable : IsReadable toml (.folder (.file content))
  · rw [hstarts hreadable]
    simp [hreadable, eq_comm]
  · obtain ⟨fault, hattempt⟩ := hbreaks hreadable
    rw [hattempt]
    exact iff_of_true rfl (.inl hreadable)

/-- The bracket behind the name of the section is missing. -/
def brokenText : Text :=
  "[ui]\ntheme = \"dark\"\n\n[scan\nmax_workers = 2\n"

def brokenHome : SettingsHome :=
  .folder (.file (Utf8.encode brokenText))

theorem load_brokenText : ∃ message,
    StandIn.Toml.library.load (Text.unifyLineEnds brokenText) = .error (.malformed message) :=
  ⟨"Key group not on a line by itself. (line 4 column 1 char 21)", by decide +kernel⟩

theorem isReadable_brokenHome : IsReadable StandIn.Toml.library brokenHome where
  within_limits := ⟨by simp [brokenHome], by simp [brokenHome]⟩
  text content h := by
    obtain rfl : Utf8.encode brokenText = content := by simpa [brokenHome] using h
    exact ⟨brokenText, Utf8.decode_encode _, .inr load_brokenText⟩

theorem not_hasTable_brokenHome (table : Toml.Table) :
    ¬HasTable StandIn.Toml.library brokenHome table := by
  rintro ⟨content, t, hhome, hdecode, hload⟩
  obtain rfl : Utf8.encode brokenText = content := by simpa [brokenHome] using hhome
  obtain rfl : brokenText = t := Except.ok.inj ((Utf8.decode_encode _).symm.trans hdecode)
  obtain ⟨message, hmessage⟩ := load_brokenText
  cases hmessage.symm.trans hload

theorem attempt_of_unusable_brokenHome :
    brokenHome = .folder (.file (Utf8.encode brokenText)) ∧
    (∀ table, ¬HasTable StandIn.Toml.library brokenHome table) ∧
    IsReadable StandIn.Toml.library brokenHome ∧
    ∀ c : Change, (c.attempt StandIn.Toml.library brokenHome).home =
      .folder (.file (written StandIn.Toml.library (c.edit []))) := by
  refine ⟨rfl, not_hasTable_brokenHome, isReadable_brokenHome, fun c => ?_⟩
  exact (attempt_of_unusable rfl not_hasTable_brokenHome c).2.1 isReadable_brokenHome

/-- Saving a number of workers puts the section alone in place of a file with one bracket too few,
and dropping the section empties that file. -/
theorem changes_overwrite_brokenHome :
    (∀ table, ¬HasTable StandIn.Toml.library brokenHome table) ∧
    (save StandIn.Toml.library brokenHome [("max_workers", .int 4)]).home =
      .folder (.file (Utf8.encode "[scan]\nmax_workers = 4\n".toList)) ∧
    Utf8.encode "[scan]\nmax_workers = 4\n".toList ≠ Utf8.encode brokenText ∧
    (clear StandIn.Toml.library brokenHome).home = .folder (.file []) ∧
    [] ≠ Utf8.encode brokenText := by
  have hhome (c : Change) : (c.attempt StandIn.Toml.library brokenHome).home =
      .folder (.file (written StandIn.Toml.library (c.edit []))) :=
    home_attempt_of_isReadable isReadable_brokenHome (isFree_file _) not_hasTable_brokenHome c
  have hsave : written StandIn.Toml.library (Change.edit (.save [("max_workers", .int 4)]) []) =
      Utf8.encode "[scan]\nmax_workers = 4\n".toList := by
    decide +kernel
  have hclear : written StandIn.Toml.library (Change.clear.edit []) = [] := by decide +kernel
  have hne : Utf8.encode "[scan]\nmax_workers = 4\n".toList ≠ Utf8.encode brokenText := by
    decide +kernel
  refine ⟨not_hasTable_brokenHome, ?_, hne, ?_, by decide +kernel⟩
  · rw [← hsave]
    exact hhome (.save [("max_workers", .int 4)])
  · rw [← hclear]
    exact hhome .clear

end CodeGraph.Store
