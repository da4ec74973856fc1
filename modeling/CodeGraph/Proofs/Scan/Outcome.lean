import CodeGraph.Proofs.Faults
import CodeGraph.Scan.Result

/-! What lies behind the result of a scan, whatever the order of the readings and the answers to the
questions whether to give up. -/
namespace CodeGraph
namespace Scan

def acceptedFiles (extensions : List Text) (files : List SourceFile) : List SourceFile :=
  files.filter fun f => isAccepted extensions f.path

section

variable (options : ScanOptions) (files : List SourceFile)

/-- The files with their nodes, when all are registered. -/
def keptOf : List Kept :=
  (registerAll options.digits (acceptedFiles options.extensions files)).2

/-- What is found when the texts are about to be looked at. -/
def startOf (harvest : Harvest) : Progress :=
  let p := (registerAll options.digits (acceptedFiles options.extensions files)).1
  { p with events := p.events ++ harvest.warnings.map fun w => .unreadable w.path w.reason }

/-- The result that is made of the harvest and of what was found at the end. -/
def resultOf (harvest : Harvest) (p : Progress) : ScanResult :=
  let accepted := (acceptedFiles options.extensions files).length
  { graph := { nodes := p.registry.nodes, edges := p.edges }
    warnings := harvest.warnings
    filesSeen := files.length
    filesAccepted := accepted
    events := p.events ++
      [.finished accepted p.registry.size p.edges.length harvest.warnings.length] }

theorem scan_eq : scan options files = do
    let harvest ← gather options.isCancelled ((keptOf options files).map (·.file)) 0
      (options.completion (keptOf options files).length) {}
    let p ← analyzeAll options.isCancelled harvest.texts (keptOf options files).length 0
      (keptOf options files) (startOf options files harvest)
    return resultOf options files harvest p := rfl

end

/-- The stages of a scan that gave a result. -/
structure Completed (options : ScanOptions) (files : List SourceFile) (result : ScanResult)
    (harvest : Harvest) (p : Progress) : Prop where
  gathered : gather options.isCancelled ((keptOf options files).map (·.file)) 0
    (options.completion (keptOf options files).length) {} = .ok harvest
  analyzed : analyzeAll options.isCancelled harvest.texts (keptOf options files).length 0
    (keptOf options files) (startOf options files harvest) = .ok p
  result_eq : result = resultOf options files harvest p

theorem scan_eq_ok_iff {options : ScanOptions} {files : List SourceFile} {result : ScanResult} :
    scan options files = .ok result ↔ ∃ harvest p, Completed options files result harvest p := by
  rw [scan_eq, bind_eq_ok_iff]
  constructor
  · rintro ⟨harvest, hgather, h⟩
    obtain ⟨p, hanalyze, hresult⟩ := bind_eq_ok_iff.mp h
    exact ⟨harvest, p, hgather, hanalyze, (Except.ok.inj hresult).symm⟩
  · rintro ⟨harvest, p, hgather, hanalyze, rfl⟩
    exact ⟨harvest, hgather, bind_eq_ok_iff.mpr ⟨p, hanalyze, rfl⟩⟩

end Scan
end CodeGraph
