import CodeGraph.Settings.Basic
import CodeGraph.Proofs.Text.SortDistinct

/-! The settings that a section stands for, key by key. -/
namespace CodeGraph.Settings

/-- A setting is taken from the stored value where that value can be used, and is the default
otherwise. -/
def Follows {α : Type} (taken : Toml.Value → α → Prop) (default : α)
    (stored : Option Toml.Value) (setting : α) : Prop :=
  (∃ v, stored = some v ∧ taken v setting) ∨
    (∀ v, stored = some v → ∀ a, ¬taken v a) ∧ setting = default

/-- Each key counts for itself. A number of workers is positive, or true; extensions come from a
list that is not empty, skipped folders from any list. -/
structure InEffect (table : Toml.Table) (s : Settings) : Prop where
  workers : Follows (fun v w => w = v ∧ (v = .bool true ∨ ∃ n, 0 < n ∧ v = .int n)) (.int 8)
    (table.get? "max_workers") s.maxWorkers
  extensions : Follows
    (fun v ts => ∃ items, v = .arr items ∧ items ≠ [] ∧ ts.Pairwise (· < ·) ∧ ∀ t, t ∈ ts ↔
      ∃ item ∈ items, Text.strip item.plain ≠ [] ∧ normalizeExtension item.plain = t)
    (Text.sortDistinct defaultExtensions) (table.get? "extensions") s.extensions
  skips : Follows
    (fun v ts => ∃ items, v = .arr items ∧ ts.Pairwise (· < ·) ∧ ∀ t, t ∈ ts ↔
      ∃ item ∈ items, item.plain = t)
    (Text.sortDistinct defaultSkips) (table.get? "skip_dirs") s.skips

theorem isWorkerCount_iff {v : Toml.Value} :
    isWorkerCount v = true ↔ v = .bool true ∨ ∃ n, 0 < n ∧ v = .int n := by
  cases v with
  | scalar v => cases v <;> simp [isWorkerCount]
  | arr items => simp [isWorkerCount]
  | obj fields => simp [isWorkerCount]

theorem mem_normalizeExtensions {t : Text} {ts : List Text} :
    t ∈ normalizeExtensions ts ↔ ∃ e ∈ ts, Text.strip e ≠ [] ∧ normalizeExtension e = t := by
  rw [normalizeExtensions, Text.mem_sortDistinct]
  simp [and_assoc]

theorem inEffect_ofTable (table : Toml.Table) : InEffect table (ofTable table) where
  workers := by
    change Follows _ _ _ (workersOf table)
    rw [workersOf]
    cases table.get? "max_workers" with
    | none => exact .inr ⟨nofun, rfl⟩
    | some v =>
      by_cases hv : isWorkerCount v
      · exact .inl ⟨v, rfl, if_pos hv, isWorkerCount_iff.mp hv⟩
      · refine .inr ⟨fun w hw a ha => hv ?_, if_neg hv⟩
        obtain rfl := Option.some.inj hw
        exact isWorkerCount_iff.mpr ha.2
  extensions := by
    change Follows _ _ _ (extensionsOf table)
    rw [extensionsOf]
    split
    · next v vs h =>
      refine .inl ⟨_, h, v :: vs, rfl, List.cons_ne_nil v vs, Text.pairwise_sortDistinct _, ?_⟩
      intro t
      rw [mem_normalizeExtensions]
      simp
    · next h =>
      refine .inr ⟨fun v hv ts hts => ?_, rfl⟩
      obtain ⟨items, rfl, hne, -⟩ := hts
      obtain ⟨item, items, rfl⟩ := List.exists_cons_of_ne_nil hne
      exact h item items hv
  skips := by
    change Follows _ _ _ (skipsOf table)
    rw [skipsOf]
    split
    · next vs h =>
      refine .inl ⟨_, h, vs, rfl, Text.pairwise_sortDistinct _, fun t => ?_⟩
      rw [Text.mem_sortDistinct, List.mem_map]
    · next h =>
      refine .inr ⟨fun v hv ts hts => ?_, rfl⟩
      obtain ⟨items, rfl, -⟩ := hts
      exact h items hv

end CodeGraph.Settings
