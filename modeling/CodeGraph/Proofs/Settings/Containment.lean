import CodeGraph.Proofs.Settings.History

/-! Which states of the home for settings each operation can deal with. -/
namespace CodeGraph.Store

section

variable (toml : Toml.Library)

/-- The settings file holds this table. -/
def HasTable (home : SettingsHome) (table : Toml.Table) : Prop :=
  ∃ content t, home = .folder (.file content) ∧ Utf8.decode content = .ok t ∧
    toml.load (Text.unifyLineEnds t) = .ok table

/-- The path of the settings file is not too long to be looked at, and a file at it is a text with a
table or with a complaint about it. -/
structure IsReadable (home : SettingsHome) : Prop where
  within_limits : home ≠ .blocked .tooLong ∧ home ≠ .folder (.closed .tooLong)
  text : ∀ content, home = .folder (.file content) → ∃ t, Utf8.decode content = .ok t ∧
    ((∃ table, toml.load (Text.unifyLineEnds t) = .ok table) ∨
      ∃ message, toml.load (Text.unifyLineEnds t) = .error (.malformed message))

/-- A table can be put in place, or is turned down with a notice. -/
structure IsWritable (home : SettingsHome) (table : Toml.Table) : Prop where
  not_blocked : ∀ fault, home ≠ .blocked fault
  closed_or_text : (∃ fault, home = .folder (.closed fault)) ∨ ∃ t, toml.dump table = .ok t

end

variable {toml : Toml.Library} {home : SettingsHome} {table : Toml.Table} {notices : List Notice}
  {c : Change}

theorem tableOf_eq_ok_iff {content : Bytes} : tableOf toml content = .ok (table, notices) ↔
    ∃ t, Utf8.decode content = .ok t ∧
      (toml.load (Text.unifyLineEnds t) = .ok table ∧ notices = [] ∨
        ∃ message, toml.load (Text.unifyLineEnds t) = .error (.malformed message) ∧
          table = [] ∧ notices = [.brokenText message]) := by
  rw [tableOf]
  cases Utf8.decode content with
  | error fault => simp
  | ok t =>
    simp only [Except.ok.injEq, exists_eq_left']
    cases hload : toml.load (Text.unifyLineEnds t) with
    | ok fs => simp [eq_comm]
    | error fault => cases fault <;> simp [eq_comm]

theorem tableOf_ends_iff {content : Bytes} : (∃ r, tableOf toml content = .ok r) ↔
    ∃ t, Utf8.decode content = .ok t ∧
      ((∃ table, toml.load (Text.unifyLineEnds t) = .ok table) ∨
        ∃ message, toml.load (Text.unifyLineEnds t) = .error (.malformed message)) := by
  constructor
  · intro ⟨(table, notices), h⟩
    obtain ⟨t, hdecode, ⟨hload, -⟩ | ⟨message, hload, -⟩⟩ := tableOf_eq_ok_iff.mp h
    · exact ⟨t, hdecode, .inl ⟨table, hload⟩⟩
    · exact ⟨t, hdecode, .inr ⟨message, hload⟩⟩
  · intro ⟨t, hdecode, h⟩
    rcases h with ⟨table, hload⟩ | ⟨message, hload⟩
    · exact ⟨(table, []), tableOf_eq_ok_iff.mpr ⟨t, hdecode, .inl ⟨hload, rfl⟩⟩⟩
    · exact ⟨_, tableOf_eq_ok_iff.mpr ⟨t, hdecode, .inr ⟨message, hload, rfl, rfl⟩⟩⟩

theorem unopened_ends_iff {fault : PathFault} : (∃ r, unopened fault = .ok r) ↔
    fault ≠ .tooLong := by
  cases fault <;> simp [unopened]

theorem load_ends_iff (toml : Toml.Library) (home : SettingsHome) :
    (∃ r, load toml home = .ok r) ↔ IsReadable toml home := by
  rcases home with _ | fault | _ | fault | content
  · exact iff_of_true ⟨_, rfl⟩ ⟨⟨by simp, by simp⟩, by simp⟩
  · rw [load, unopened_ends_iff]
    exact ⟨fun h => ⟨⟨by simpa using h, by simp⟩, by simp⟩, fun h => by simpa using h.within_limits⟩
  · exact iff_of_true ⟨_, rfl⟩ ⟨⟨by simp, by simp⟩, by simp⟩
  · rw [load, unopened_ends_iff]
    exact ⟨fun h => ⟨⟨by simp, by simpa using h⟩, by simp⟩, fun h => by simpa using h.within_limits⟩
  · rw [load, tableOf_ends_iff]
    refine ⟨fun h => ⟨⟨by simp, by simp⟩, fun content' heq => ?_⟩, fun h => h.text content rfl⟩
    obtain rfl : content = content' := by simpa using heq
    exact h

theorem settings_ends_iff (toml : Toml.Library) (home : SettingsHome) :
    (∃ r, settings toml home = .ok r) ↔ IsReadable toml home := by
  rw [← load_ends_iff]
  constructor
  · intro ⟨r, h⟩
    obtain ⟨loaded, hload, -⟩ := bind_eq_ok_iff.mp h
    exact ⟨loaded, hload⟩
  · intro ⟨(table, notices), hload⟩
    exact ⟨_, settings_of_load hload⟩

theorem table_of_unopened {fault : PathFault} (h : unopened fault = .ok (table, notices)) :
    table = [] := by
  cases fault <;> simp_all [unopened]

theorem hasTable_or_empty (h : load toml home = .ok (table, notices)) :
    HasTable toml home table ∨ table = [] := by
  rcases home with _ | fault | _ | fault | content
  · exact .inr (Prod.mk.inj (Except.ok.inj h)).1.symm
  · exact .inr (table_of_unopened h)
  · exact .inr (Prod.mk.inj (Except.ok.inj h)).1.symm
  · exact .inr (table_of_unopened h)
  · obtain ⟨t, hdecode, ⟨hload, -⟩ | ⟨message, -, htable, -⟩⟩ := tableOf_eq_ok_iff.mp h
    · exact .inl ⟨content, t, rfl, hdecode, hload⟩
    · exact .inr htable

theorem replace_ends_iff (toml : Toml.Library) (home : SettingsHome) (table : Toml.Table) :
    (∃ b, (replace toml home table).stored = .ok b) ↔ IsWritable toml home table := by
  obtain ⟨fault, rfl⟩ | ⟨fault, rfl⟩ | hfree := blocked_or_closed_or_isFree home
  · exact iff_of_false (by simp [replace]) fun h => h.not_blocked fault rfl
  · exact iff_of_true ⟨false, rfl⟩ ⟨by simp, .inl ⟨fault, rfl⟩⟩
  · rw [replace_of_isFree hfree]
    cases hdump : toml.dump table with
    | ok t => exact iff_of_true ⟨true, rfl⟩ ⟨hfree.not_blocked, .inr ⟨t, hdump⟩⟩
    | error error =>
      refine iff_of_false (by simp [Attempt.ofText]) fun h => ?_
      rcases h.closed_or_text with ⟨fault, hclosed⟩ | ⟨t, ht⟩
      · exact hfree.not_closed fault hclosed
      · cases hdump.symm.trans ht

theorem attempt_ends_iff (toml : Toml.Library) (home : SettingsHome) (c : Change) :
    (∃ b, (c.attempt toml home).stored = .ok b) ↔
      ∃ table notices, load toml home = .ok (table, notices) ∧
        IsWritable toml home (c.edit table) := by
  rw [c.attempt_eq]
  cases hload : load toml home with
  | error fault =>
    rw [change_of_fault hload]
    exact iff_of_false (by simp) (by simp)
  | ok loaded =>
    obtain ⟨table, notices⟩ := loaded
    rw [change_of_load hload]
    simp [← replace_ends_iff]

theorem home_of_stored_false (h : (c.attempt toml home).stored = .ok false) :
    (c.attempt toml home).home = home := by
  rw [c.attempt_eq] at h ⊢
  cases hload : load toml home with
  | error fault =>
    rw [change_of_fault hload] at h
    cases h
  | ok loaded =>
    rw [change_of_load hload] at h ⊢
    obtain ⟨fault, rfl⟩ | ⟨fault, rfl⟩ | hfree := blocked_or_closed_or_isFree home
    · rfl
    · rfl
    · rw [replace_of_isFree hfree] at h
      cases hdump : toml.dump (c.edit loaded.1) <;> rw [hdump] at h <;> cases h

/-- Reading ends with a result exactly for a readable home, with the defaults if there is no table
in it. A change ends with an answer exactly if reading does and the new table can be put in place,
and the answer no means that nothing was touched. -/
theorem operations_end_iff (toml : Toml.Library) (home : SettingsHome) :
    ((∃ r, load toml home = .ok r) ↔ IsReadable toml home) ∧
    ((∃ r, settings toml home = .ok r) ↔ IsReadable toml home) ∧
    (∀ table notices, load toml home = .ok (table, notices) → (∀ t, ¬HasTable toml home t) →
      table = [] ∧ settings toml home = .ok ({}, notices)) ∧
    ∀ c : Change, ((∃ b, (c.attempt toml home).stored = .ok b) ↔
        ∃ table notices, load toml home = .ok (table, notices) ∧
          IsWritable toml home (c.edit table)) ∧
      ((c.attempt toml home).stored = .ok false → (c.attempt toml home).home = home) := by
  refine ⟨load_ends_iff toml home, settings_ends_iff toml home, fun table notices hload hnone => ?_,
    fun c => ⟨attempt_ends_iff toml home c, home_of_stored_false⟩⟩
  obtain rfl := (hasTable_or_empty hload).resolve_left (hnone table)
  exact ⟨rfl, settings_of_load hload⟩

/-- The byte 0xFF starts no character. -/
def undecodableHome : SettingsHome :=
  .folder (.file [0xFF])

/-- A file stands in place of the folder for settings. -/
def fileHome : SettingsHome :=
  .blocked .occupied

/-- All four operations end with a fault at bytes that are no text, and both changes do at a home
that is a file, whatever package reads and writes the texts. -/
theorem faults_escape :
    (∀ toml r, load toml undecodableHome ≠ .ok r) ∧
      (∀ toml r, settings toml undecodableHome ≠ .ok r) ∧
      (∀ toml, ∀ c : Change, ∀ b, (c.attempt toml undecodableHome).stored ≠ .ok b) ∧
      ∀ toml, ∀ c : Change, ∀ b, (c.attempt toml fileHome).stored ≠ .ok b := by
  have hdecode : Utf8.decode [0xFF] = .error ⟨.startByte, 0xFF, 0, 1⟩ := by decide +kernel
  have hload (toml : Toml.Library) : load toml undecodableHome =
      .error (.undecodable ⟨.startByte, 0xFF, 0, 1⟩) := by
    rw [undecodableHome, load, tableOf, hdecode]
  have hunread (toml : Toml.Library) : ¬IsReadable toml undecodableHome := by
    rw [← load_ends_iff, hload]
    simp
  have hwrite (toml : Toml.Library) (c : Change) :
      (c.attempt toml fileHome).stored = .error (.path .occupied) := by
    have hempty : load toml fileHome = .ok ([], []) := rfl
    rw [c.attempt_eq, change_of_load hempty]
    rfl
  refine ⟨fun toml r h => hunread toml ((load_ends_iff ..).mp ⟨r, h⟩),
    fun toml r h => hunread toml ((settings_ends_iff ..).mp ⟨r, h⟩), fun toml c b h => ?_,
    fun toml c b h => ?_⟩
  · rw [c.attempt_eq, change_of_fault (hload toml)] at h
    cases h
  · cases (hwrite toml c).symm.trans h

end CodeGraph.Store
