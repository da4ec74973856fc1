import CodeGraph.Proofs.Settings.Alike
import CodeGraph.Proofs.Settings.InEffect
import CodeGraph.Proofs.Settings.Storing
import CodeGraph.StandIn.Toml.Library

/-! What is stored after a run of changes, and the settings that are then in effect. -/
namespace CodeGraph.Store

/-- A call that changes the stored table. -/
inductive Change
  | save (values : Toml.Table)
  | clear

namespace Change

def attempt (toml : Toml.Library) (home : SettingsHome) : Change → Attempt
  | .save values => Store.save toml home values
  | .clear => Store.clear toml home

/-- What a change makes of a table. -/
def edit : Change → Toml.Table → Toml.Table
  | .save values, table =>
    table.set sectionName (.obj (((section? table).getD []).update values))
  | .clear, table => table.erase sectionName

theorem attempt_eq (toml : Toml.Library) (home : SettingsHome) (c : Change) :
    c.attempt toml home = change toml home c.edit := by
  cases c <;> rfl

end Change

section

variable (toml : Toml.Library)

/-- The home after changes. -/
def after (home : SettingsHome) (changes : List Change) : SettingsHome :=
  changes.foldl (fun home c => (c.attempt toml home).home) home

/-- The changes, with the home that each of them meets. -/
def turns (home : SettingsHome) : List Change → List (SettingsHome × Change)
  | [] => []
  | c :: rest => (home, c) :: turns (c.attempt toml home).home rest

/-- The text written for a table gives this table when it is read, but for the order of keys. -/
def ReadsBack (table : Toml.Table) : Prop :=
  ∀ t, toml.dump table = .ok t →
    ∃ back : Toml.Table, toml.load (Text.unifyLineEnds t) = .ok back ∧ back.Alike table

end

/-- The table that changes make of another one. -/
def edited (changes : List Change) (table : Toml.Table) : Toml.Table :=
  changes.foldl (fun table c => c.edit table) table

variable {toml : Toml.Library} {home : SettingsHome} {table initial final fs gs base : Toml.Table}
  {key : Text} {changes before : List Change} {saves : List Toml.Table} {notices : List Notice}
  {c : Change}

theorem edited_nil (table : Toml.Table) : edited [] table = table :=
  rfl

theorem edited_cons (c : Change) (changes : List Change) (table : Toml.Table) :
    edited (c :: changes) table = edited changes (c.edit table) :=
  rfl

theorem edited_append (before changes : List Change) (table : Toml.Table) :
    edited (before ++ changes) table = edited changes (edited before table) :=
  List.foldl_append

theorem section?_eq_some_iff : section? table = some fs ↔
    table.get? sectionName = some (.obj fs) := by
  rw [section?]
  split
  · next fs' h => rw [h]; simp
  · next h => exact iff_of_false nofun (h fs)

theorem section?_of_alike (h : fs.Alike gs) :
    Option.Rel Fields.Alike (section? fs) (section? gs) := by
  have hsection := h sectionName
  rw [section?, section?]
  generalize fs.get? sectionName = a at hsection
  generalize gs.get? sectionName = b at hsection
  cases hsection with
  | none => exact .none
  | @some v w hvw =>
    cases hvw with
    | refl =>
      cases v with
      | obj fs => exact .some (.refl fs)
      | _ => exact .none
    | arr => exact .none
    | obj missing values => exact .some (Toml.Value.alike_obj_iff.mp (.obj missing values))

theorem Change.edit_alike (h : fs.Alike gs) (c : Change) : (c.edit fs).Alike (c.edit gs) := by
  cases c with
  | clear => exact h.erase sectionName
  | save values =>
    have hsection : ((section? fs).getD []).Alike ((section? gs).getD []) := by
      have hrel := section?_of_alike h
      generalize section? fs = a at hrel
      generalize section? gs = b at hrel
      cases hrel with
      | none => exact .refl []
      | some hrel => exact hrel
    exact h.set (Toml.Value.alike_obj_iff.mpr (hsection.update values)) sectionName

theorem edited_alike (h : fs.Alike gs) (changes : List Change) :
    (edited changes fs).Alike (edited changes gs) := by
  induction changes generalizing fs gs with
  | nil => exact h
  | cons c changes ih => exact ih (c.edit_alike h)

/-- A stored change is found again. -/
theorem load_attempt (hload : load toml home = .ok (table, notices))
    (hstored : (c.attempt toml home).stored = .ok true) (hreads : ReadsBack toml (c.edit table)) :
    ∃ back : Toml.Table, load toml (c.attempt toml home).home = .ok (back, []) ∧
      back.Alike (c.edit table) := by
  rw [c.attempt_eq, change_of_load hload] at hstored ⊢
  obtain ⟨t, hdump, hhome⟩ := replace_stored hstored
  obtain ⟨back, hread, halike⟩ := hreads t hdump
  refine ⟨back, ?_, halike⟩
  change load toml (replace toml home (c.edit table)).home = _
  rw [hhome, load, tableOf_encode hread]

theorem load_after (hload : load toml home = .ok (initial, notices))
    (hstored : ∀ p ∈ turns toml home changes, (p.2.attempt toml p.1).stored = .ok true)
    (hreads : ∀ p ∈ turns toml home changes, ∀ table notices, load toml p.1 = .ok (table, notices) →
      ReadsBack toml (p.2.edit table)) :
    ∃ final : Toml.Table,
      load toml (after toml home changes) = .ok (final, if changes = [] then notices else []) ∧
      final.Alike (edited changes initial) := by
  induction changes generalizing home initial notices with
  | nil => exact ⟨initial, hload, .refl initial⟩
  | cons c changes ih =>
    obtain ⟨hfirst, hstored⟩ := List.forall_mem_cons.mp hstored
    obtain ⟨hback, hreads⟩ := List.forall_mem_cons.mp hreads
    -- The later changes start from what was read back, which has its keys in another order.
    obtain ⟨back, hloaded, halike⟩ := load_attempt hload hfirst (hback _ _ hload)
    obtain ⟨final, hfinal, hedited⟩ := ih hloaded hstored hreads
    rw [ite_self] at hfinal
    exact ⟨final, hfinal, hedited.trans (edited_alike halike changes)⟩

/-- Changes are about the section alone. -/
theorem get?_edited_of_ne (hkey : key ≠ sectionName) (changes : List Change) (table : Toml.Table) :
    (edited changes table).get? key = table.get? key := by
  induction changes generalizing table with
  | nil => rfl
  | cons c changes ih =>
    rw [edited_cons, ih]
    cases c with
    | save values => rw [Change.edit, Fields.get?_set, if_neg hkey.symm]
    | clear => rw [Change.edit, Fields.get?_erase, if_neg hkey.symm]

theorem section?_edited_of_some (h : section? table = some fs)
    (saves : List Toml.Table) : section? (edited (saves.map .save) table) =
      some (fs.update saves.flatten) := by
  induction saves generalizing table fs with
  | nil => exact h
  | cons values saves ih =>
    have hnext : section? (Change.edit (.save values) table) = some (fs.update values) := by
      rw [section?_eq_some_iff, Change.edit, Fields.get?_set, if_pos rfl, h, Option.getD_some]
    rw [List.flatten_cons, Fields.update_append]
    exact ih hnext

theorem section?_edited (hsaves : saves ≠ [])
    (table : Toml.Table) : section? (edited (saves.map .save) table) =
      some (((section? table).getD []).update saves.flatten) := by
  obtain ⟨values, saves, rfl⟩ := List.exists_cons_of_ne_nil hsaves
  have hfirst : section? (Change.edit (.save values) table) =
      some (((section? table).getD []).update values) := by
    rw [section?_eq_some_iff, Change.edit, Fields.get?_set, if_pos rfl]
  rw [List.flatten_cons, Fields.update_append]
  exact section?_edited_of_some hfirst saves

/-- The section holds the last of the values saved for a key, or else what `base` has under it. -/
def Holds (base : Toml.Table) (saves : List Toml.Table) (table : Toml.Table) : Prop :=
  ∃ fs, section? table = some fs ∧ ∀ key, Option.Rel Toml.Value.Alike (Fields.get? key fs)
    ((Fields.get? key saves.flatten.reverse).or (base.get? key))

theorem holds_of_alike (h : final.Alike table)
    (hsection : section? table = some (base.update saves.flatten)) : Holds base saves final := by
  have hrel := section?_of_alike h
  rw [hsection] at hrel
  cases hfinal : section? final with
  | none =>
    rw [hfinal] at hrel
    cases hrel
  | some fs =>
    rw [hfinal] at hrel
    cases hrel with
    | some halike =>
      refine ⟨fs, hfinal, fun key => ?_⟩
      rw [← Fields.get?_update]
      exact halike key

/-- What has become of a table by changes. Saves add to the section, which starts anew after it was
dropped. -/
structure Reflects (initial : Toml.Table) (changes : List Change) (final : Toml.Table) : Prop where
  others : ∀ key, key ≠ sectionName →
    Option.Rel Toml.Value.Alike (final.get? key) (initial.get? key)
  saved : ∀ saves, changes = saves.map .save → Holds ((section? initial).getD []) saves final
  renewed : ∀ before saves, changes = before ++ .clear :: saves.map .save → saves ≠ [] →
    Holds [] saves final
  dropped : ∀ before, changes = before ++ [.clear] → final.get? sectionName = none

theorem reflects_of_alike (hne : changes ≠ []) (h : final.Alike (edited changes initial)) :
    Reflects initial changes final where
  others key hkey := by
    rw [← get?_edited_of_ne hkey changes initial]
    exact h key
  saved saves heq := by
    subst heq
    exact holds_of_alike h (section?_edited (by simpa using hne) initial)
  renewed before saves heq hsaves := by
    subst heq
    rw [edited_append, edited_cons] at h
    have hdropped : section? (Change.clear.edit (edited before initial)) = none := by
      rw [section?, Change.edit, Fields.get?_erase, if_pos rfl]
    refine holds_of_alike h ((section?_edited hsaves _).trans ?_)
    rw [hdropped, Option.getD_none]
  dropped before heq := by
    subst heq
    have hrel := h sectionName
    rw [edited_append, edited_cons, edited_nil, Change.edit, Fields.get?_erase, if_pos rfl] at hrel
    generalize final.get? sectionName = v at hrel
    cases hrel
    rfl

theorem settings_of_load (h : load toml home = .ok (table, notices)) :
    settings toml home = .ok (.ofTable ((section? table).getD []), notices) := by
  simp only [settings, h, bind, Except.bind, pure, Except.pure]
  cases section? table <;> rfl

/-- A run of stored changes leaves what its own history says, and the settings in effect follow it
key by key. -/
theorem after_reflects (hload : load toml home = .ok (initial, notices)) (hne : changes ≠ [])
    (hstored : ∀ p ∈ turns toml home changes, (p.2.attempt toml p.1).stored = .ok true)
    (hreads : ∀ p ∈ turns toml home changes, ∀ table notices, load toml p.1 = .ok (table, notices) →
      ReadsBack toml (p.2.edit table)) :
    ∃ (final : Toml.Table) (s : Settings), load toml (after toml home changes) = .ok (final, []) ∧
      Reflects initial changes final ∧ settings toml (after toml home changes) = .ok (s, []) ∧
      s.InEffect ((section? final).getD []) := by
  obtain ⟨final, hfinal, halike⟩ := load_after hload hstored hreads
  rw [if_neg hne] at hfinal
  exact ⟨final, _, hfinal, reflects_of_alike hne halike, settings_of_load hfinal,
    Settings.inEffect_ofTable _⟩

theorem readsBack_of_eq (h : ((toml.dump table).toOption.bind fun t =>
    (toml.load (Text.unifyLineEnds t)).toOption) = some table) : ReadsBack toml table := by
  intro t hdump
  rw [hdump] at h
  exact ⟨table, eq_ok_of_toOption h, .refl table⟩

/-- A title, and a section with a number of workers. -/
def titledHome : SettingsHome :=
  .folder (.file (Utf8.encode "title = \"x\"\n\n[scan]\nmax_workers = 2\n".toList))

def titledTable : Toml.Table :=
  [("title", .str "x"), ("scan", .obj [("max_workers", .int 2)])]

def titledChanges : List Change :=
  [.save [("max_workers", .int 4)], .clear, .save [("extensions", .arr [.str ".JS"])]]

theorem after_reflects_titledHome :
    load StandIn.Toml.library titledHome = .ok (titledTable, []) ∧
    ∃ (final : Toml.Table) (s : Settings),
      load StandIn.Toml.library (after StandIn.Toml.library titledHome titledChanges) =
        .ok (final, []) ∧
      Reflects titledTable titledChanges final ∧
      settings StandIn.Toml.library (after StandIn.Toml.library titledHome titledChanges) =
        .ok (s, []) ∧
      s.InEffect ((section? final).getD []) := by
  have hload : load StandIn.Toml.library titledHome = .ok (titledTable, []) := by decide +kernel
  have hstored : ∀ p ∈ turns StandIn.Toml.library titledHome titledChanges,
      (p.2.attempt StandIn.Toml.library p.1).stored = .ok true := by
    decide +kernel
  have hreads : ∀ p ∈ turns StandIn.Toml.library titledHome titledChanges,
      ∀ r ∈ (load StandIn.Toml.library p.1).toOption,
        ((StandIn.Toml.library.dump (p.2.edit r.1)).toOption.bind fun t =>
          (StandIn.Toml.library.load (Text.unifyLineEnds t)).toOption) = some (p.2.edit r.1) := by
    decide +kernel
  refine ⟨hload, after_reflects hload (List.cons_ne_nil _ _) hstored ?_⟩
  intro p hp table notices h
  exact readsBack_of_eq (hreads p hp (table, notices) (by rw [h]; rfl))

end CodeGraph.Store
