import CodeGraph.Folder.Lookup
import CodeGraph.Settings.Basic
import CodeGraph.Toml.Library

/-! The stored settings: a text file in a folder of its own, where the section of the scan is one
table among others. -/
namespace CodeGraph

/-- What the path of the settings file leads to: nothing yet, what cannot be opened (a folder, for
one), or a file. -/
inductive SettingsFile
  | absent
  | closed (fault : PathFault)
  | file (content : Bytes)
deriving DecidableEq

/-- What the path of the folder for settings leads to. It is blocked where no folder can be made,
since a file stands in its place. -/
inductive SettingsHome
  | absent
  | blocked (fault : PathFault)
  | folder (file : SettingsFile)
deriving DecidableEq

inductive Notice
  | brokenText (message : Text)
  | notRead (fault : PathFault)
  | notWritten (fault : PathFault)
deriving DecidableEq

inductive StoreFault
  | undecodable (fault : Utf8.Fault)
  | library (error : Raised)
  | path (fault : PathFault)
deriving DecidableEq

namespace Store

def fileName : Text := "config.toml"

def sectionName : Text := "scan"

variable (toml : Toml.Library)

/-- The table in a settings file. A text that is not well formed is passed over. -/
def tableOf (content : Bytes) : Except StoreFault (Toml.Table × List Notice) :=
  match Utf8.decode content with
  | .error fault => .error (.undecodable fault)
  | .ok t =>
    match toml.load (Text.unifyLineEnds t) with
    | .ok table => .ok (table, [])
    | .error (.malformed message) => .ok ([], [.brokenText message])
    | .error (.raised error) => .error (.library error)

/-- A look at whether there is a file says no to most faults, but lets out that a path is too long.
A folder is there, and then cannot be read. -/
def unopened : PathFault → Except StoreFault (Toml.Table × List Notice)
  | .isAFolder => .ok ([], [.notRead .isAFolder])
  | .tooLong => .error (.path .tooLong)
  | _ => .ok ([], [])

def load (home : SettingsHome) : Except StoreFault (Toml.Table × List Notice) :=
  match home with
  | .absent | .folder .absent => .ok ([], [])
  | .blocked fault | .folder (.closed fault) => unopened fault
  | .folder (.file content) => tableOf toml content

def section? (table : Toml.Table) : Option Toml.Table :=
  match table.get? sectionName with
  | some (.obj fs) => some fs
  | _ => none

def settings (home : SettingsHome) : Except StoreFault (Settings × List Notice) := do
  let (table, notices) ← load toml home
  return (match section? table with
    | some fs => .ofTable fs
    | none => {}, notices)

/-- How an attempt to store ended. The home can have changed even if the attempt failed. -/
structure Attempt where
  home : SettingsHome
  stored : Except StoreFault Bool
  notices : List Notice := []

/-- Puts a table in place of the stored one. The file is emptied first. -/
def replace (home : SettingsHome) (table : Toml.Table) : Attempt :=
  match home with
  | .blocked fault => ⟨.blocked fault, .error (.path fault), []⟩
  | .folder (.closed fault) => ⟨.folder (.closed fault), .ok false, [.notWritten fault]⟩
  | .absent | .folder _ =>
    match toml.dump table with
    | .ok t => ⟨.folder (.file (Utf8.encode t)), .ok true, []⟩
    | .error error => ⟨.folder (.file []), .error (.library error), []⟩

def change (home : SettingsHome) (f : Toml.Table → Toml.Table) : Attempt :=
  match load toml home with
  | .error fault => ⟨home, .error fault, []⟩
  | .ok (table, notices) =>
    let a := replace toml home (f table)
    { a with notices := notices ++ a.notices }

/-- Sets keys of the section of the scan and keeps everything else. -/
def save (home : SettingsHome) (values : Toml.Table) : Attempt :=
  change toml home fun table =>
    table.set sectionName (.obj (((section? table).getD []).update values))

def clear (home : SettingsHome) : Attempt :=
  change toml home (·.erase sectionName)

end Store

def Notice.message (path : Text) : Notice → Text
  | .brokenText message => "Ignoring unreadable config " ++ path ++ ": " ++ message
  | .notRead fault => "Ignoring unreadable config " ++ path ++ ": " ++ fault.message path
  | .notWritten fault => "Could not write config " ++ path ++ ": " ++ fault.message path

end CodeGraph
