import CodeGraph.Folder.Discovery
import CodeGraph.Graph.Export
import CodeGraph.Graph.Payload
import CodeGraph.Settings.Store

/-! The surroundings of a command: folders, the place of the settings, and the moment. -/
namespace CodeGraph

/-- `home` is the path of the folder for settings, and `homeText` the path as it is shown.
`milliseconds` tells the moment. -/
structure Workspace where
  top : Entry
  here : Location := []
  home : Text
  homeText : Text
  milliseconds : Int
  unreadable? : Text → Option Text := fun _ => none
  digits : DigitStream := {}

/-- Without empty segments and single dots. A path of nothing else is the folder itself. -/
def Path.tidy (path : Text) : Text :=
  let root := match path with
    | '/' :: '/' :: '/' :: _ => ['/']
    | '/' :: '/' :: _ => ['/', '/']
    | '/' :: _ => ['/']
    | _ => []
  let segments := (Text.split '/' path).filter fun s => s ≠ [] ∧ s ≠ ['.']
  match root ++ Text.join "/" segments with
  | [] => ['.']
  | t => t

/-- A tidy path and a name in the folder that it leads to. -/
def Path.within (path name : Text) : Text :=
  if path = ['.'] then name
  else if Text.endsWith "/" path then path ++ name
  else path ++ '/' :: name

namespace Workspace

def folder? (w : Workspace) (path : Text) : Option Location :=
  match Lookup.find? w.top w.here path with
  | some (place, .folder _) => some place
  | _ => none

def hasFile (w : Workspace) (path : Text) : Bool :=
  match Lookup.find? w.top w.here path with
  | some (_, .file _) => true
  | _ => false

def homePath (w : Workspace) : Text :=
  Path.tidy w.home

def settingsPath (w : Workspace) : Text :=
  Path.within w.homePath Store.fileName

def settingsText (w : Workspace) : Text :=
  w.homeText ++ '/' :: Store.fileName

/-- What the path of the settings leads to. Where there is no folder for settings, it counts whether
one can be made. -/
def settingsHome (w : Workspace) : SettingsHome :=
  match Lookup.find? w.top w.here w.settingsPath with
  | some (_, .file content) => .folder (.file content)
  | some _ => .folder (.closed .isAFolder)
  | none =>
    match w.folder? w.homePath, Lookup.locate w.top w.here w.settingsPath,
      Lookup.putFolder w.top w.here w.homePath with
    | some _, .ok _, _ => .folder .absent
    | some _, .error fault, _ => .folder (.closed fault)
    | none, .error .tooLong, _ => .blocked .tooLong
    | none, _, .ok _ => .absent
    | none, _, .error fault => .blocked fault

def withHome (w : Workspace) (home : SettingsHome) : Except PathFault Workspace :=
  match home with
  | .folder (.file content) => do
    let top ← Lookup.putFolder w.top w.here w.homePath
    return { w with top := ← Lookup.putContent top w.here w.settingsPath content }
  | _ => .ok w

def settings (w : Workspace) (toml : Toml.Library) : Except StoreFault (Settings × List Notice) :=
  Store.settings toml w.settingsHome

def sources (w : Workspace) (place : Location) (skips : List Text) :
    Except PathFault (List SourceFile) :=
  Discovery.sources w.top place skips w.unreadable?

def scan (w : Workspace) (extensions : List Text) (files : List SourceFile) :
    Except ScanFault ScanResult :=
  CodeGraph.scan { extensions, digits := w.digits } files

/-- Where a graph goes: to the file of that path, or to a new file in the folder of that path. -/
def outputPath (w : Workspace) (output : Text) (format : ExportFormat) : Text :=
  let path := Path.tidy output
  if (w.folder? path).isSome then Path.within path (exportName w.milliseconds format.name) else path

def write (w : Workspace) (path content : Text) : Except PathFault Workspace := do
  let top ← Lookup.putContent w.top w.here path (Utf8.encode content)
  return { w with top }

end Workspace
end CodeGraph
