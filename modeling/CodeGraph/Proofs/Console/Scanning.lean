import CodeGraph.Proofs.Console.Reports
import CodeGraph.Proofs.Faults
import CodeGraph.Proofs.Json.Ascii
import CodeGraph.Proofs.Scan.NodeList
import CodeGraph.Proofs.Scan.ReadingOrder
import CodeGraph.Proofs.Scan.Reload
import CodeGraph.Proofs.Scan.Selection
import CodeGraph.Proofs.Scan.WellFormed

/-! A scan of a folder from the command line: what it finds, and what it tells before its graph is
given out. -/
namespace CodeGraph
namespace Workspace

variable {w : Workspace} {place : Location} {extensions skips : List Text} {files : List SourceFile}

theorem reading_sources (hfiles : w.sources place skips = .ok files) {f : SourceFile}
    (hf : f ∈ files) : (∀ message, f.reading ≠ .crash message) ∧
      ∀ reason, f.reading = .unreadable reason → w.unreadable? f.path = some reason := by
  obtain ⟨found, -, hsources⟩ := bind_eq_ok_iff.mp hfiles
  obtain rfl := Except.ok.inj hsources
  obtain ⟨⟨p, bytes⟩, -, rfl⟩ := List.mem_map.mp hf
  dsimp only [Discovery.source]
  cases w.unreadable? (Discovery.path p) with
  | none => simp
  | some reason => simp

/-- What a scan of files gives: a graph with nodes unless no file was taken, which comes back from
its text, and warnings about files that could not be read. -/
structure Scanned (w : Workspace) (extensions : List Text) (files : List SourceFile)
    (r : ScanResult) : Prop where
  isEmpty_iff : r.graph.isEmpty = true ↔ Scan.acceptedFiles extensions files = []
  dangling : r.graph.danglingEdges = []
  dump : Text.unifyLineEnds r.graph.dump = r.graph.dump
  unstyled : ¬HasTerminalSequence r.graph.dump
  load : Graph.load r.graph.dump = .ok r.graph
  warnings : ∀ warning ∈ r.warnings, w.unreadable? warning.path = some warning.reason

theorem exists_scanned (hfiles : w.sources place skips = .ok files) (extensions : List Text) :
    ∃ r, w.scan extensions files = .ok r ∧ w.Scanned extensions files r := by
  let options : ScanOptions := { extensions, digits := w.digits }
  have hreads : ∀ f ∈ files, ∀ message, f.reading ≠ .crash message :=
    fun f hf => (reading_sources hfiles hf).1
  have ho : options.Undisturbed := ⟨fun _ => rfl, fun _ => List.Perm.refl _⟩
  obtain ⟨r, hscan, hfollows⟩ := Scan.scan_follows ho hreads
  have hwarned : Scan.Warned extensions files r.warnings := by
    obtain ⟨r', hscan', -, hwarned⟩ := Scan.scan_graphOf ho hreads
    obtain rfl := Except.ok.inj (hscan'.symm.trans hscan)
    exact hwarned
  have hlegible := Scan.legible_graph hscan
  refine ⟨r, hscan, ?_, hfollows.wellFormed.danglingEdges_eq_nil,
    hlegible.unifyLineEnds_indentedText, ?_,
    (Scan.settled_graph hscan).roundTrips.text (Json.read_indentedText hlegible), ?_⟩
  · rw [hfollows.isEmpty_iff, Scan.keptFiles_eq, addFirsts_eq_nil_iff]
  · rintro ⟨before, parameters, letter, after, htext, -, -⟩
    have hescape : '\x1b' ∈ r.graph.dump := by
      rw [htext]
      exact List.mem_append_right _ List.mem_cons_self
    exact absurd (hlegible.isWritten .indented 0 _ hescape) (by decide)
  · intro warning hwarning
    have hfind := (hwarned.kept warning hwarning).2
    exact (reading_sources hfiles (List.mem_of_find?_eq_some hfind)).2 _ rfl

end Workspace

namespace Session

open MarkupPiece (IsSystemError)

variable {l : Libraries} {w : Workspace} {line : List Text} {verbose : Bool}
  {request : ScanRequest} {place : Location} {format : ExportFormat} {settings : Settings}
  {notices : List Notice} {files : List SourceFile} {r : ScanResult}

/-- What a scan has told when its graph is about to be given out. -/
def warned (l : Libraries) (w : Workspace) (verbose : Bool) (notices : List Notice)
    (r : ScanResult) : Outcome :=
  let start : Outcome := { workspace := w, stderr := Notice.logText w.settingsText notices }
  r.warnings.foldl (fun o warning => o.complain l.console (skippedLine l.console warning))
    (start.printError (Event.logText verbose r.events))

theorem runLine_scan (hline : l.commandLine.read line = some ⟨verbose, .scan request⟩)
    (hfolder : w.folder? (Path.tidy request.folder) = some place)
    (hformat : ExportFormat.ofName? request.format = some format)
    (hsettings : w.settings l.toml = .ok (settings, notices))
    (hfiles : w.sources place settings.skips = .ok files)
    (hscan : w.scan (request.accepted settings) files = .ok r) :
    runLine l w line =
      if (warned l w verbose notices r).crash.isSome then warned l w verbose notices r
      else giveOut l (warned l w verbose notices r) request.output format r := by
  have hrun : runLine l w line = scanPlace l w verbose request place format := by
    rw [runLine, hline]
    change scanFolder l w verbose request = _
    rw [scanFolder, hfolder, hformat]
  rw [hrun, scanPlace, hsettings]
  dsimp only
  rw [hfiles]
  dsimp only
  rw [hscan]
  rfl

/-- A scan of which all warnings can be shown gives its graph out. -/
theorem exists_runLine_eq (h : l.console.ShowsSound)
    (hline : l.commandLine.read line = some ⟨verbose, .scan request⟩)
    (hfolder : w.folder? (Path.tidy request.folder) = some place)
    (hformat : ExportFormat.ofName? request.format = some format)
    (hsettings : w.settings l.toml = .ok (settings, notices))
    (hfiles : w.sources place settings.skips = .ok files)
    (hscan : w.scan (request.accepted settings) files = .ok r)
    (hreasons : ∀ warning ∈ r.warnings, IsSystemError warning.reason) :
    ∃ stderr, runLine l w line =
      giveOut l { workspace := w, stderr } request.output format r := by
  obtain ⟨stderr, hwarned⟩ :
      ∃ stderr, warned l w verbose notices r = { workspace := w, stderr } :=
    foldl_complain h hreasons rfl
  refine ⟨stderr, ?_⟩
  rw [runLine_scan hline hfolder hformat hsettings hfiles hscan, hwarned]
  rfl

theorem giveOut_of_isEmpty (h : l.console.ShowsSound) (stderr : Text) (output : Option Text)
    (format : ExportFormat) (hempty : r.graph.isEmpty = true) :
    ∃ stdout, giveOut l { workspace := w, stderr } output format r =
      { workspace := w, stderr, stdout } := by
  obtain ⟨t, ht⟩ := exists_line_plain h
    (t := "No code files found in the selected folder.") (by decide +kernel)
  refine ⟨t, ?_⟩
  unfold giveOut
  rw [if_pos hempty, Outcome.say_eq ht rfl, Outcome.print_of_silent rfl]

theorem giveOut_console (stderr : Text) (hempty : r.graph.isEmpty = false) :
    giveOut l { workspace := w, stderr } none format r =
      { workspace := w, stderr, stdout := l.commandLine.echo (r.graph.exportText format) } := by
  unfold giveOut
  rw [hempty]
  rfl

end Session
end CodeGraph
