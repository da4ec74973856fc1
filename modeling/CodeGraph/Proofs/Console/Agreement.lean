import CodeGraph.Proofs.Console.Scanning
import CodeGraph.Proofs.Folder.Writing
import CodeGraph.Proofs.Text.Utf8
import CodeGraph.StandIn.Libraries

/-! A scan on the console, a scan into a file and an inspection of that file tell the same. -/
namespace CodeGraph
namespace Session

open MarkupPiece (IsSystemError)

/-- The file that a graph is put into. -/
def graphFile : Text := "g.json"

/-- What a scan says about the file that it wrote. -/
def savedReports (c : Console) (r : ScanResult) : List Report :=
  .line (writtenLine c graphFile) :: .line (sizesLine r) :: tables r.graph

/-- What an inspection says about that file. -/
def loadedReports (c : Console) (g : Graph) : List Report :=
  .line (loadedLine c graphFile g) :: tables g

variable {l : Libraries}

section

variable {w w' : Workspace} {format : ExportFormat} {r : ScanResult} (stderr : Text)

theorem giveOut_file (hl : l.console.ShowsSound) (hempty : r.graph.isEmpty = false)
    (hpath : w.outputPath graphFile format = graphFile)
    (hwrite : w.write graphFile (r.graph.exportText format) = .ok w') :
    ∃ stdout, l.console.Puts (savedReports l.console r) stdout ∧
      giveOut l { workspace := w, stderr } (some graphFile) format r =
        { workspace := w', stderr, stdout } := by
  obtain ⟨written, hwritten⟩ := exists_line_written hl graphFile
  obtain ⟨sizes, hsizes⟩ := exists_line_sizes hl r
  obtain ⟨counts, hcounts, hsummarize⟩ := exists_summarize hl r.graph
  refine ⟨written ++ (sizes ++ counts), .cons hwritten (.cons hsizes hcounts), ?_⟩
  let o : Outcome := { workspace := w', stderr }
  have hgraph : writeGraph l { workspace := w, stderr } r.graph format graphFile =
      o.print written := by
    unfold writeGraph
    dsimp only
    rw [hpath, hwrite]
    exact Outcome.say_eq hwritten rfl
  unfold giveOut
  rw [hempty, if_neg (by decide)]
  dsimp only
  rw [hgraph, Outcome.say_eq (o := o.print written) hsizes rfl, hsummarize _ rfl,
    Outcome.print_print, Outcome.print_print, Outcome.print_of_silent rfl]

theorem inspect_file {g : Graph} {t : Text} (hl : l.console.ShowsSound)
    (hfile : w.hasFile graphFile = true)
    (hcontent : Lookup.content w.top w.here graphFile = .ok (Utf8.encode t))
    (hload : Graph.load (Text.unifyLineEnds t) = .ok g) (hdangling : g.danglingEdges = []) :
    ∃ stdout, l.console.Puts (loadedReports l.console g) stdout ∧
      inspect l w graphFile = { workspace := w, stdout } := by
  obtain ⟨loaded, hloaded⟩ := exists_line_loaded hl graphFile g
  obtain ⟨counts, hcounts, hsummarize⟩ := exists_summarize hl g
  refine ⟨loaded ++ counts, .cons hloaded hcounts, ?_⟩
  have htidy : Path.tidy graphFile = graphFile := by decide +kernel
  have hgraph : Graph.loadFile w.top w.here graphFile = .ok g := by
    unfold Graph.loadFile
    rw [hcontent]
    dsimp only
    rw [Utf8.decode_encode]
    exact hload
  unfold inspect
  dsimp only
  rw [htidy, hfile, hgraph]
  dsimp only
  rw [if_neg (by decide), Outcome.say_eq hloaded rfl, hdangling, List.length_nil, if_pos rfl,
    hsummarize _ rfl, Outcome.print_print, Outcome.print_of_silent rfl]

end

theorem outputPath_of_folder? {w : Workspace} (hfree : w.folder? graphFile = none)
    (format : ExportFormat) : w.outputPath graphFile format = graphFile := by
  have htidy : Path.tidy graphFile = graphFile := by decide +kernel
  unfold Workspace.outputPath
  rw [htidy]
  dsimp only
  rw [hfree]
  rfl

/-- Where a graph can be written, it goes to that file and is found there. -/
theorem exists_write_graphFile {w : Workspace} (hfree : w.folder? graphFile = none)
    (hspot : ∃ spot, Lookup.locate w.top w.here graphFile = .ok spot) (format : ExportFormat)
    (t : Text) : w.outputPath graphFile format = graphFile ∧ ∃ w' : Workspace,
      w.write graphFile t = .ok w' ∧ w'.hasFile graphFile = true ∧
        Lookup.content w'.top w'.here graphFile = .ok (Utf8.encode t) := by
  obtain ⟨⟨place, found⟩, hlocate⟩ := hspot
  have hplace : ¬w.top.HasFolder place := by
    intro hfolder
    obtain ⟨items, hfind⟩ := Lookup.find?_of_hasFolder hlocate hfolder
    rw [Workspace.folder?, hfind] at hfree
    cases hfree
  have hname : Text.split '/' graphFile = [graphFile] := by decide +kernel
  obtain ⟨top, hput, hfind, hcontent⟩ :=
    Lookup.putContent_of_name hname hlocate hplace (Utf8.encode t)
  refine ⟨outputPath_of_folder? hfree format, { w with top },
    bind_eq_ok_iff.mpr ⟨top, hput, rfl⟩, ?_, hcontent⟩
  rw [Workspace.hasFile, hfind]

/-- The console shows what the file holds, and an inspection of that file tells of the same graph as
the scan did: of its sizes and of its counts, in which every node and every edge counts once. -/
structure Agree (l : Libraries) (w : Workspace) (format : ExportFormat) (r : ScanResult)
    (shown saved : Outcome) : Prop where
  shown_exit : shown.exit = 0 ∧ shown.crash = none
  shown_stdout : format = .json ∨ ¬HasTerminalSequence (r.graph.exportText format) →
    shown.stdout = r.graph.exportText format ++ ['\n']
  shown_workspace : shown.workspace = w
  saved_exit : saved.exit = 0 ∧ saved.crash = none
  saved_stdout : l.console.Puts (savedReports l.console r) saved.stdout
  saved_content : Lookup.content saved.workspace.top saved.workspace.here graphFile =
    .ok (Utf8.encode (r.graph.exportText format))
  inspected : format = .json → ∃ stdout, l.console.Puts (loadedReports l.console r.graph) stdout ∧
    runLine l saved.workspace ["inspect", graphFile] = { workspace := saved.workspace, stdout }
  counts : (NodeKind.all.map r.graph.countNodes).sum = r.graph.nodes.length ∧
    (EdgeKind.all.map r.graph.countEdges).sum = r.graph.edges.length

section

variable {w : Workspace} {line lineOut extensions : List Text} {verbose verboseOut : Bool}
  {request : ScanRequest} {place : Location} {format : ExportFormat} {settings : Settings}
  {notices : List Notice} {files : List SourceFile} {r : ScanResult}

theorem agree_giveOut (hl : l.AreDocumented) (hscanned : w.Scanned extensions files r)
    (hsome : Scan.acceptedFiles extensions files ≠ [])
    (hinspect : l.commandLine.read ["inspect", graphFile] = some ⟨false, .inspect graphFile⟩)
    (hfree : w.folder? graphFile = none)
    (hspot : ∃ spot, Lookup.locate w.top w.here graphFile = .ok spot) (stderr stderrOut : Text) :
    Agree l w format r (giveOut l { workspace := w, stderr } none format r)
      (giveOut l { workspace := w, stderr := stderrOut } (some graphFile) format r) := by
  have hempty : r.graph.isEmpty = false := by
    rw [← Bool.not_eq_true, hscanned.isEmpty_iff]
    exact hsome
  obtain ⟨hpath, w', hwrite, hfile, hcontent⟩ :=
    exists_write_graphFile hfree hspot format (r.graph.exportText format)
  obtain ⟨stdout, hputs, hgive⟩ := giveOut_file stderrOut hl.console hempty hpath hwrite
  rw [giveOut_console stderr hempty, hgive]
  refine ⟨⟨rfl, rfl⟩, fun hplain => ?_, rfl, ⟨rfl, rfl⟩, hputs, hcontent, fun hjson => ?_,
    sum_counts r.graph⟩
  · refine hl.commandLine _ ?_
    rcases hplain with rfl | hplain
    · exact hscanned.unstyled
    · exact hplain
  · subst hjson
    rw [runLine, hinspect]
    refine inspect_file hl.console hfile hcontent ?_ hscanned.dangling
    exact (congrArg Graph.load hscanned.dump).trans hscanned.load

/-- Two command lines that ask for the same scan, once on the console and once in a file, with
settings that can be loaded and a folder that can be searched. If a file is accepted and the graph
can be written, then the outcomes agree. If no file is accepted, then nothing is written. -/
theorem scan_agrees (hl : l.AreDocumented)
    (hline : l.commandLine.read line =
      some ⟨verbose, .scan { request with output := none }⟩)
    (hlineOut : l.commandLine.read lineOut =
      some ⟨verboseOut, .scan { request with output := some graphFile }⟩)
    (hinspect : l.commandLine.read ["inspect", graphFile] = some ⟨false, .inspect graphFile⟩)
    (hfolder : w.folder? (Path.tidy request.folder) = some place)
    (hformat : ExportFormat.ofName? request.format = some format)
    (hsettings : w.settings l.toml = .ok (settings, notices))
    (hfiles : w.sources place settings.skips = .ok files)
    (hreasons : ∀ path reason, w.unreadable? path = some reason → IsSystemError reason) :
    ∃ r, w.scan (request.accepted settings) files = .ok r ∧
      (Scan.acceptedFiles (request.accepted settings) files ≠ [] →
        w.folder? graphFile = none → (∃ spot, Lookup.locate w.top w.here graphFile = .ok spot) →
          Agree l w format r (runLine l w line) (runLine l w lineOut)) ∧
      (Scan.acceptedFiles (request.accepted settings) files = [] →
        ∀ o, o = runLine l w line ∨ o = runLine l w lineOut →
          o.exit = 0 ∧ o.crash = none ∧ o.workspace = w) := by
  obtain ⟨r, hscan, hscanned⟩ := Workspace.exists_scanned hfiles (request.accepted settings)
  have hsystem : ∀ warning ∈ r.warnings, IsSystemError warning.reason :=
    fun warning hwarning => hreasons _ _ (hscanned.warnings warning hwarning)
  obtain ⟨stderr, hshown⟩ :=
    exists_runLine_eq hl.console hline hfolder hformat hsettings hfiles hscan hsystem
  obtain ⟨stderrOut, hsaved⟩ :=
    exists_runLine_eq hl.console hlineOut hfolder hformat hsettings hfiles hscan hsystem
  rw [hshown, hsaved]
  refine ⟨r, hscan, fun hsome hfree hspot => ?_, fun hnone o ho => ?_⟩
  · exact agree_giveOut hl hscanned hsome hinspect hfree hspot stderr stderrOut
  · obtain ⟨stderr, output, rfl⟩ :
        ∃ stderr output, o = giveOut l { workspace := w, stderr } output format r :=
      ho.elim (fun h => ⟨_, _, h⟩) fun h => ⟨_, _, h⟩
    obtain ⟨stdout, hgive⟩ :=
      giveOut_of_isEmpty hl.console stderr output format (hscanned.isEmpty_iff.mpr hnone)
    rw [hgive]
    exact ⟨rfl, rfl, rfl⟩

end

/-! Two files in a folder, and packages that act as documented. -/

theorem exists_of_sequenceEnd? {t rest : Text}
    (h : StandIn.CommandLine.sequenceEnd? t = some rest) :
    ∃ parameters letter, t = parameters ++ letter :: rest ∧
      (∀ c ∈ parameters, (c.isDigit || c = ';' || c = '?') = true) ∧ letter.isAlpha = true := by
  induction t with
  | nil => cases h
  | cons c t ih =>
    rw [StandIn.CommandLine.sequenceEnd?] at h
    split_ifs at h with hletter hparameter
    · obtain rfl := Option.some.inj h
      exact ⟨[], c, rfl, List.forall_mem_nil _, hletter⟩
    · obtain ⟨parameters, letter, rfl, hparameters, hletter⟩ := ih h
      exact ⟨c :: parameters, letter, rfl, List.forall_mem_cons.mpr ⟨hparameter, hparameters⟩,
        hletter⟩

theorem hasTerminalSequence_of_sequence? {t rest : Text}
    (h : StandIn.CommandLine.sequence? t = some rest) : HasTerminalSequence t := by
  unfold StandIn.CommandLine.sequence? at h
  split at h
  · obtain ⟨parameters, letter, rfl, hsequence⟩ := exists_of_sequenceEnd? h
    exact ⟨[], parameters, letter, rest, rfl, hsequence⟩
  · cases h

theorem hasTerminalSequence_cons {t : Text} (h : HasTerminalSequence t) (c : Char) :
    HasTerminalSequence (c :: t) := by
  obtain ⟨before, parameters, letter, after, rfl, hsequence⟩ := h
  exact ⟨c :: before, parameters, letter, after, rfl, hsequence⟩

theorem unstyled_eq_self {t : Text} (h : ¬HasTerminalSequence t) (fuel : Nat) :
    StandIn.CommandLine.unstyled fuel t = t := by
  induction fuel generalizing t with
  | zero => rw [StandIn.CommandLine.unstyled]
  | succ fuel ih =>
    cases t with
    | nil => rw [StandIn.CommandLine.unstyled]; simp
    | cons c t =>
      rw [StandIn.CommandLine.unstyled]
      cases hsequence : StandIn.CommandLine.sequence? (c :: t) with
      | some rest => exact absurd (hasTerminalSequence_of_sequence? hsequence) h
      | none =>
        dsimp only
        rw [ih fun htail => h (hasTerminalSequence_cons htail c)]

/-- The packages to run the commands with, where a console shows what it cannot read as it is. -/
def patientLibraries : Libraries :=
  { StandIn.libraries with
    console :=
      { escape := StandIn.libraries.console.escape
        line := fun markup => .ok ((StandIn.libraries.console.line markup).toOption.getD markup)
        complaint := fun markup =>
          .ok ((StandIn.libraries.console.complaint markup).toOption.getD markup)
        table := fun t => .ok ((StandIn.libraries.console.table t).toOption.getD []) } }

theorem areDocumented_patientLibraries : patientLibraries.AreDocumented where
  console := ⟨fun _ _ => ⟨_, rfl⟩, fun _ _ => ⟨_, rfl⟩, fun _ _ => ⟨_, rfl⟩⟩
  commandLine t h := congrArg (· ++ ['\n']) (unstyled_eq_self h t.length)

/-- Two files, of which the second cannot be read. -/
def smallFiles : List (Text × Entry) :=
  [("a.js", .file (Utf8.encode "import b from './b'".toList)), ("b.js", .file [])]

/-- A folder with files, and further items beside it. -/
def smallWorkspace (files items : List (Text × Entry)) : Workspace where
  top := .folder (("src", .folder files) :: items)
  home := "home"
  homeText := "home"
  milliseconds := 0
  unreadable? path := if path = "b.js" then some "[Errno 13] Permission denied: 'b.js'" else none

theorem isSystemError_smallWorkspace (files items : List (Text × Entry)) (path reason : Text)
    (h : (smallWorkspace files items).unreadable? path = some reason) : IsSystemError reason := by
  obtain ⟨-, hreason⟩ := Option.ite_none_right_eq_some.mp h
  obtain rfl := Option.some.inj hreason
  exact .inl ⟨13, "Permission denied: 'b.js'", by decide +kernel⟩

def smallSources : List SourceFile :=
  [⟨"a.js", .text "import b from './b'"⟩,
    ⟨"b.js", .unreadable "[Errno 13] Permission denied: 'b.js'"⟩]

theorem sources_small : (smallWorkspace smallFiles []).sources ["src".toList]
    ({} : Settings).skips = .ok smallSources := by
  decide +kernel

def smallRequest : ScanRequest := { folder := "src" }

theorem read_scan : patientLibraries.commandLine.read ["scan", "src"] =
    some ⟨false, .scan { smallRequest with output := none }⟩ := by
  decide +kernel

theorem read_scanOut : patientLibraries.commandLine.read ["scan", "src", "-o", graphFile] =
    some ⟨false, .scan { smallRequest with output := some graphFile }⟩ := by
  decide +kernel

theorem scan_agrees_smallWorkspace :
    Scan.acceptedFiles ({} : Settings).extensions smallSources ≠ [] ∧
    ∃ r, Agree patientLibraries (smallWorkspace smallFiles []) .json r
      (runLine patientLibraries (smallWorkspace smallFiles []) ["scan", "src"])
      (runLine patientLibraries (smallWorkspace smallFiles [])
        ["scan", "src", "-o", graphFile]) := by
  have hspot : Lookup.locate (smallWorkspace smallFiles []).top
      (smallWorkspace smallFiles []).here graphFile = .ok ([graphFile], false) := by
    decide +kernel
  have hfolder : (smallWorkspace smallFiles []).folder? (Path.tidy smallRequest.folder) =
      some ["src".toList] := by
    decide +kernel
  have hsettings : (smallWorkspace smallFiles []).settings patientLibraries.toml =
      .ok ({}, []) := by
    decide +kernel
  have hsome : Scan.acceptedFiles ({} : Settings).extensions smallSources ≠ [] := by decide +kernel
  have hinspect : patientLibraries.commandLine.read ["inspect", graphFile] =
      some ⟨false, .inspect graphFile⟩ := by
    decide +kernel
  have hformat : ExportFormat.ofName? smallRequest.format = some .json := by decide +kernel
  obtain ⟨r, -, hagree, -⟩ := scan_agrees areDocumented_patientLibraries read_scan read_scanOut
    hinspect hfolder hformat hsettings sources_small (isSystemError_smallWorkspace smallFiles [])
  exact ⟨hsome, r, hagree hsome (by decide +kernel) ⟨_, hspot⟩⟩

/-- A scan succeeds both ways, and the console shows the text that the file holds. -/
def ShowsSaved (shown saved : Outcome) : Prop :=
  shown.exit = 0 ∧ saved.exit = 0 ∧ ∃ t,
    Lookup.content saved.workspace.top saved.workspace.here graphFile = .ok (Utf8.encode t) ∧
      shown.stdout = t ++ ['\n']

/-- There is a file of this name in the folder that a scan accepts, the graph may go to its file,
and yet the scan does not show what it saves. -/
structure Disagrees (w : Workspace) (name format : Text) : Prop where
  accepted : w.hasFile ("src/" ++ name) = true ∧ isAccepted ({} : Settings).extensions name = true
  free : w.folder? graphFile = none
  apart : ¬ShowsSaved (runLine patientLibraries w ["scan", "src", "-f", format])
    (runLine patientLibraries w ["scan", "src", "-f", format, "-o", graphFile])

/-- The file for the graph is a link into a folder that there is not. -/
def deadLinkWorkspace : Workspace :=
  smallWorkspace smallFiles [(graphFile, .link "nowhere/g.json")]

def undecodableWorkspace : Workspace :=
  smallWorkspace smallFiles [("home", .folder [(Store.fileName, .file [0xff])])]

/-- One of the files is a link to a name that no file can have. -/
def longLinkWorkspace : Workspace :=
  smallWorkspace (("dead.js", .link (List.replicate 300 'a')) :: smallFiles) []

/-- The name of a file styles a terminal. -/
def styledName : Text := "\x1b[31ma.js"

def styledWorkspace : Workspace :=
  smallWorkspace [(styledName, .file [])] []

theorem Disagrees.of_exit {w : Workspace} {name format : Text}
    (haccepted : w.hasFile ("src/" ++ name) = true ∧
      isAccepted ({} : Settings).extensions name = true)
    (hfree : w.folder? graphFile = none)
    (hexit : (runLine patientLibraries w
      ["scan", "src", "-f", format, "-o", graphFile]).exit = 1) : Disagrees w name format := by
  refine ⟨haccepted, hfree, fun h => ?_⟩
  rw [h.2.1] at hexit
  cases hexit

theorem disagrees_styledWorkspace : Disagrees styledWorkspace styledName "dot" := by
  refine ⟨by decide +kernel, by decide +kernel, ?_⟩
  rintro ⟨-, -, t, hcontent, hstdout⟩
  let saved := runLine patientLibraries styledWorkspace
    ["scan", "src", "-f", "dot", "-o", graphFile]
  let shown := runLine patientLibraries styledWorkspace ["scan", "src", "-f", "dot"]
  -- What the file holds has the sequence, and what is shown has not.
  have hescape : ((Lookup.content saved.workspace.top saved.workspace.here graphFile).toOption.bind
      fun bytes => (Utf8.decode bytes).toOption).any (·.contains '\x1b') = true := by
    decide +kernel
  have hclean : shown.stdout.contains '\x1b' = false := by decide +kernel
  rw [hcontent] at hescape
  change ((Utf8.decode (Utf8.encode t)).toOption.any fun t => t.contains '\x1b') = true at hescape
  rw [Utf8.decode_encode] at hescape
  have hmem : '\x1b' ∈ shown.stdout := by
    rw [hstdout]
    exact List.mem_append_left _ (by simpa [Except.toOption] using hescape)
  rw [← List.contains_iff_mem, hclean] at hmem
  cases hmem

/-- None of what is asked of the workspace and of the drawing can be left out. -/
theorem scan_disagrees : Disagrees deadLinkWorkspace "a.js" "json" ∧
    Disagrees undecodableWorkspace "a.js" "json" ∧ Disagrees longLinkWorkspace "a.js" "json" ∧
    Disagrees styledWorkspace styledName "dot" :=
  ⟨.of_exit (by decide +kernel) (by decide +kernel) (by decide +kernel),
    .of_exit (by decide +kernel) (by decide +kernel) (by decide +kernel),
    .of_exit (by decide +kernel) (by decide +kernel) (by decide +kernel),
    disagrees_styledWorkspace⟩

end Session
end CodeGraph
