import CodeGraph.Text.Basic

/-! The commands, with their options as they are given. -/
namespace CodeGraph

/-- Without extensions, those of the settings count. -/
structure ScanRequest where
  folder : Text
  output : Option Text := none
  format : Text := "json"
  extensions : List Text := []
deriving DecidableEq, Repr

inductive Command
  | help
  | version
  | scan (request : ScanRequest)
  | inspect (file : Text)
  | sample (output : Option Text) (format : Text)
  | showSettings
  | setWorkers (count : Int)
  | setExtensions (extensions : List Text)
  | resetSettings
deriving DecidableEq, Repr

/-- A command, and whether all that it reports is shown. -/
structure Invocation where
  verbose : Bool
  command : Command
deriving DecidableEq, Repr

end CodeGraph
