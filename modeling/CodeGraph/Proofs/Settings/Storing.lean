import CodeGraph.Settings.Store
import CodeGraph.Proofs.Faults
import CodeGraph.Proofs.Text.Utf8

/-! What putting a table in place of the stored one does to the home, and how it ends. -/
namespace CodeGraph.Store

variable {toml : Toml.Library} {home : SettingsHome} {table : Toml.Table} {t : Text}
  {notices : List Notice} {f : Toml.Table → Toml.Table}

theorem tableOf_encode (h : toml.load (Text.unifyLineEnds t) = .ok table) :
    tableOf toml (Utf8.encode t) = .ok (table, []) := by
  rw [tableOf, Utf8.decode_encode]
  simp only [h]

/-- A file can be written: the home is or can be made a folder, and nothing stands in the way in
it. -/
structure IsFree (home : SettingsHome) : Prop where
  not_blocked : ∀ fault, home ≠ .blocked fault
  not_closed : ∀ fault, home ≠ .folder (.closed fault)

theorem isFree_file (content : Bytes) : IsFree (.folder (.file content)) :=
  ⟨by simp, by simp⟩

theorem blocked_or_closed_or_isFree (home : SettingsHome) :
    (∃ fault, home = .blocked fault) ∨ (∃ fault, home = .folder (.closed fault)) ∨
      IsFree home := by
  rcases home with _ | fault | _ | fault | content
  · exact .inr (.inr ⟨by simp, by simp⟩)
  · exact .inl ⟨fault, rfl⟩
  · exact .inr (.inr ⟨by simp, by simp⟩)
  · exact .inr (.inl ⟨fault, rfl⟩)
  · exact .inr (.inr (isFree_file content))

/-- What comes of a text to be written, or of the error to make one. -/
def Attempt.ofText : Except Raised Text → Attempt
  | .ok t => ⟨.folder (.file (Utf8.encode t)), .ok true, []⟩
  | .error error => ⟨.folder (.file []), .error (.library error), []⟩

theorem replace_of_isFree (h : IsFree home) (table : Toml.Table) :
    replace toml home table = .ofText (toml.dump table) := by
  unfold replace
  split
  · exact absurd rfl (h.not_blocked _)
  · exact absurd rfl (h.not_closed _)
  all_goals cases toml.dump table <;> rfl

theorem replace_stored (h : (replace toml home table).stored = .ok true) :
    ∃ t, toml.dump table = .ok t ∧
      (replace toml home table).home = .folder (.file (Utf8.encode t)) := by
  obtain ⟨fault, rfl⟩ | ⟨fault, rfl⟩ | hfree := blocked_or_closed_or_isFree home
  · cases h
  · cases h
  · rw [replace_of_isFree hfree] at h ⊢
    cases hdump : toml.dump table with
    | ok t => exact ⟨t, rfl, rfl⟩
    | error error =>
      rw [hdump] at h
      cases h

theorem change_of_load (h : load toml home = .ok (table, notices)) :
    change toml home f = { replace toml home (f table) with
      notices := notices ++ (replace toml home (f table)).notices } := by
  rw [change, h]

theorem change_of_fault {fault : StoreFault} (h : load toml home = .error fault) :
    change toml home f = ⟨home, .error fault, []⟩ := by
  rw [change, h]

end CodeGraph.Store
