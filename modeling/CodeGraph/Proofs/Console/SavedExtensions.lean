import CodeGraph.Console.Session
import CodeGraph.Proofs.Folder.Writing
import CodeGraph.Proofs.Settings.ExtensionForms
import CodeGraph.Proofs.Settings.History
import CodeGraph.StandIn.Libraries

/-! The command that saves extensions, and the settings that are in effect afterwards. -/
namespace CodeGraph

theorem Toml.Value.eq_of_alike_str {v : Toml.Value} {t : Text} (h : v.Alike (.str t)) :
    v = .str t := by
  cases h
  rfl

/-- A list of strings has no keys whose order could change. -/
theorem Toml.Value.eq_of_alike_strings {v : Toml.Value} {ts : List Text}
    (h : v.Alike (.arr (ts.map fun t => .str t))) : v = .arr (ts.map fun t => .str t) := by
  cases h with
  | refl => rfl
  | arr length_eq items =>
    congr 1
    refine List.ext_getElem length_eq fun i hi hi' => ?_
    have hitem := items i _ _ (List.getElem?_eq_getElem hi) (List.getElem?_eq_getElem hi')
    rw [List.getElem_map] at hitem ⊢
    exact eq_of_alike_str hitem

namespace Store

def extensionFields (extensions : List Text) : Toml.Table :=
  [("extensions", .arr (extensions.map .str))]

theorem settings_extensionFields {toml : Toml.Library} {home : SettingsHome} {table : Toml.Table}
    {notices : List Notice} {extensions : List Text} (hne : extensions ≠ [])
    (hload : load toml home = .ok (table, notices))
    (hstored : (save toml home (extensionFields extensions)).stored = .ok true)
    (hreads : ReadsBack toml ((Change.save (extensionFields extensions)).edit table)) :
    ∃ s, settings toml (save toml home (extensionFields extensions)).home = .ok (s, []) ∧
      s.extensions = normalizeExtensions extensions := by
  obtain ⟨back, hback, halike⟩ :=
    load_attempt (c := .save (extensionFields extensions)) hload hstored hreads
  refine ⟨_, settings_of_load hback, ?_⟩
  have hsection : section? ((Change.save (extensionFields extensions)).edit table) =
      some (((section? table).getD []).update [extensionFields extensions].flatten) :=
    Store.section?_edited (List.cons_ne_nil _ []) table
  obtain ⟨fs, hfs, hkeys⟩ := holds_of_alike halike hsection
  have hkey := hkeys "extensions"
  change Option.Rel _ (Fields.get? "extensions" fs)
    (some (Toml.Value.arr (extensions.map .str))) at hkey
  generalize hget : Fields.get? "extensions" fs = stored at hkey
  cases hkey with
  | some hkey =>
    obtain rfl := Toml.Value.eq_of_alike_strings hkey
    obtain ⟨e, rest, rfl⟩ := List.exists_cons_of_ne_nil hne
    change Settings.extensionsOf ((section? back).getD []) = _
    rw [hfs, Option.getD_some, Settings.extensionsOf, hget]
    simp [Toml.Value.plain, Function.comp_def]

end Store

/-- What was put into the file of the settings is what their path leads to. -/
theorem Workspace.settingsHome_of_withHome {w w' : Workspace} {content : Bytes}
    (hhere : w.top.HasFolder w.here)
    (h : w.withHome (.folder (.file content)) = .ok w') :
    w'.settingsHome = .folder (.file content) := by
  obtain ⟨top, hfolder, h⟩ := bind_eq_ok_iff.mp h
  obtain ⟨top', hput, h⟩ := bind_eq_ok_iff.mp h
  obtain rfl := Except.ok.inj h
  have hstart := Lookup.start_hasFolder (Lookup.putFolder_hasFolder hfolder hhere) w.settingsPath
  obtain ⟨place, hfind⟩ := Lookup.find?_of_putContent hstart hput
  let w' : Workspace := { w with top := top' }
  change w'.settingsHome = _
  have hfound : Lookup.find? w'.top w'.here w'.settingsPath = some (place, .file content) := hfind
  rw [settingsHome, hfound]

namespace Session

variable {l : Libraries} {w : Workspace}

/-- A command on the settings succeeds just if they were stored and the report can be shown. -/
theorem exit_afterAttempt {a : Store.Attempt} {markup : Text}
    (h : (afterAttempt l w a markup).exit = 0) : a.stored = .ok true ∧
      w.withHome a.home = .ok (afterAttempt l w a markup).workspace ∧
      l.console.line ("[green]✓[/green] " ++ markup) =
        .ok (afterAttempt l w a markup).stdout := by
  unfold afterAttempt at h ⊢
  cases hhome : w.withHome a.home with
  | error fault =>
    rw [hhome] at h
    cases h
  | ok w' =>
    rw [hhome] at h
    rcases hstored : a.stored with fault | _ | _
    · rw [hstored] at h
      cases h
    · rw [hstored] at h
      cases h
    · rw [hstored] at h
      simp only [Outcome.say, Outcome.withShown] at h ⊢
      generalize l.console.line _ = shown at h ⊢
      cases shown with
      | error error => cases h
      | ok shown => exact ⟨trivial, rfl, rfl⟩

/-- What stands in a workspace once an attempt to store has succeeded is found there again. -/
theorem exists_load_of_save (hhere : w.top.HasFolder w.here) {values : Toml.Table} {w' : Workspace}
    (hstored : (Store.save l.toml w.settingsHome values).stored = .ok true)
    (hhome : w.withHome (Store.save l.toml w.settingsHome values).home = .ok w') :
    (∃ table notices, Store.load l.toml w.settingsHome = .ok (table, notices)) ∧
      w'.settingsHome = (Store.save l.toml w.settingsHome values).home := by
  cases hload : Store.load l.toml w.settingsHome with
  | error fault =>
    rw [Store.save, Store.change_of_fault hload] at hstored
    cases hstored
  | ok loaded =>
    refine ⟨⟨loaded.1, loaded.2, rfl⟩, ?_⟩
    rw [Store.save, Store.change_of_load hload] at hstored hhome ⊢
    obtain ⟨t, -, hfile⟩ := Store.replace_stored hstored
    dsimp only at hhome ⊢
    rw [hfile] at hhome ⊢
    exact Workspace.settingsHome_of_withHome hhere hhome

variable {line args : List Text} {verbose : Bool}

/-- Once the command that saves extensions has succeeded, the settings hold the forms of what was
saved, and that is what was saved unless an argument is hollow. Here the text that was written is
read back as the table that it was written for. -/
theorem settings_runLine
    (hline : l.commandLine.read line = some ⟨verbose, .setExtensions args⟩)
    (hhere : w.top.HasFolder w.here) (hexit : (runLine l w line).exit = 0)
    (hreads : ∀ table notices, Store.load l.toml w.settingsHome = .ok (table, notices) →
      Store.ReadsBack l.toml ((Store.Change.save (Store.extensionFields
        (normalizeExtensions args))).edit table)) :
    l.console.line ("[green]✓[/green] " ++ ("extensions = " ++
        Text.join ", " (normalizeExtensions args))) = .ok (runLine l w line).stdout ∧
      ∃ s, (runLine l w line).workspace.settings l.toml = .ok (s, []) ∧
        s.extensions = normalizeExtensions (normalizeExtensions args) ∧
        (s.extensions = normalizeExtensions args ↔ ∀ t ∈ args, ¬IsHollow t) := by
  have hrun : runLine l w line =
      if (normalizeExtensions args).isEmpty then usageError w
      else setExtensions l w (normalizeExtensions args) := by
    rw [runLine, hline]
    rfl
  rw [hrun] at hexit ⊢
  split_ifs at hexit ⊢ with hempty
  · cases hexit
  have hne : normalizeExtensions args ≠ [] := by simpa using hempty
  obtain ⟨hstored, hworkspace, hshown⟩ := exit_afterAttempt hexit
  obtain ⟨⟨table, notices, hload⟩, hhome⟩ := exists_load_of_save hhere hstored hworkspace
  obtain ⟨s, hsettings, hextensions⟩ :=
    Store.settings_extensionFields hne hload hstored (hreads table notices hload)
  refine ⟨hshown, s, (congrArg (Store.settings l.toml) hhome).trans hsettings, hextensions, ?_⟩
  rw [hextensions]
  exact (forms args).again_iff

/-- The forms of any list, and what becomes of the list that the command saved and showed. -/
theorem forms_and_settings_runLine (ts : List Text)
    (hline : l.commandLine.read line = some ⟨verbose, .setExtensions args⟩)
    (hhere : w.top.HasFolder w.here) (hexit : (runLine l w line).exit = 0)
    (hreads : ∀ table notices, Store.load l.toml w.settingsHome = .ok (table, notices) →
      Store.ReadsBack l.toml ((Store.Change.save (Store.extensionFields
        (normalizeExtensions args))).edit table)) :
    Forms ts ∧ l.console.line ("[green]✓[/green] " ++ ("extensions = " ++
        Text.join ", " (normalizeExtensions args))) = .ok (runLine l w line).stdout ∧
      ∃ s, (runLine l w line).workspace.settings l.toml = .ok (s, []) ∧
        s.extensions = normalizeExtensions (normalizeExtensions args) ∧
        (s.extensions = normalizeExtensions args ↔ ∀ t ∈ args, ¬IsHollow t) :=
  ⟨forms ts, settings_runLine hline hhere hexit hreads⟩

def newWorkspace : Workspace where
  top := .folder []
  home := "home"
  homeText := "home"
  milliseconds := 0

def newLine : List Text :=
  ["-v", "config", "set-extensions", " .JS", "ts", "..py "]

def newExtensions : List Text :=
  [" .JS", "ts", "..py "]

theorem forms_and_settings_newLine :
    StandIn.libraries.commandLine.read newLine = some ⟨true, .setExtensions newExtensions⟩ ∧
      (runLine StandIn.libraries newWorkspace newLine).exit = 0 ∧ Forms newExtensions ∧
      StandIn.libraries.console.line ("[green]✓[/green] " ++ ("extensions = " ++
        Text.join ", " (normalizeExtensions newExtensions))) =
          .ok (runLine StandIn.libraries newWorkspace newLine).stdout ∧
      ∃ s, (runLine StandIn.libraries newWorkspace newLine).workspace.settings
          StandIn.libraries.toml = .ok (s, []) ∧
        s.extensions = normalizeExtensions (normalizeExtensions newExtensions) ∧
        (s.extensions = normalizeExtensions newExtensions ↔
          ∀ t ∈ newExtensions, ¬IsHollow t) := by
  have hline : StandIn.libraries.commandLine.read newLine =
      some ⟨true, .setExtensions newExtensions⟩ := by decide +kernel
  have hexit : (runLine StandIn.libraries newWorkspace newLine).exit = 0 := by decide +kernel
  have hload : Store.load StandIn.libraries.toml newWorkspace.settingsHome = .ok ([], []) := by
    decide +kernel
  refine ⟨hline, hexit, forms_and_settings_runLine newExtensions hline ⟨[], rfl⟩ hexit ?_⟩
  intro table notices h
  rw [hload] at h
  obtain ⟨rfl, rfl⟩ := Prod.mk.inj (Except.ok.inj h)
  exact Store.readsBack_of_eq (by decide +kernel)

/-- A lone dot leaves a form without characters, and a blank behind a dot one that begins with it.
Neither is a normal form of itself, so no extension is in effect once a lone dot was saved. -/
theorem not_forms_dot :
    normalizeExtensions ["."] = [[]] ∧ normalizeExtensions [[]] = [] ∧
      normalizeExtensions [". js"] = ([" js"] : List Text) ∧
      normalizeExtensions [" js"] = (["js"] : List Text) ∧
      (runLine StandIn.libraries newWorkspace ["config", "set-extensions", "."]).exit = 0 ∧
      ((runLine StandIn.libraries newWorkspace
        ["config", "set-extensions", "."]).workspace.settings StandIn.libraries.toml).toOption.map
          (fun loaded => loaded.1.extensions) = some [] := by
  decide +kernel

end Session
end CodeGraph
