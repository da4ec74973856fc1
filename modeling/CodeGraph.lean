import CodeGraph.Console.Command
import CodeGraph.Console.Library
import CodeGraph.Console.Log
import CodeGraph.Console.Outcome
import CodeGraph.Console.Session
import CodeGraph.Console.Table
import CodeGraph.Console.Workspace
import CodeGraph.Decimal.Binary64
import CodeGraph.Decimal.Literal
import CodeGraph.Decimal.Shortest
import CodeGraph.Decimal.Truncation
import CodeGraph.Folder.Discovery
import CodeGraph.Folder.Entry
import CodeGraph.Folder.Lookup
import CodeGraph.Graph.Basic
import CodeGraph.Graph.Dot
import CodeGraph.Graph.Export
import CodeGraph.Graph.Kind
import CodeGraph.Graph.Payload
import CodeGraph.Graph.Record
import CodeGraph.Graph.Sample
import CodeGraph.Json.Basic
import CodeGraph.Json.Plain
import CodeGraph.Json.Reader
import CodeGraph.Json.Writer
import CodeGraph.Main
import CodeGraph.Scan.Identifier
import CodeGraph.Scan.Progress
import CodeGraph.Scan.Registry
import CodeGraph.Scan.Resolution
import CodeGraph.Scan.Result
import CodeGraph.Settings.Basic
import CodeGraph.Settings.Store
import CodeGraph.Source.Language
import CodeGraph.Source.Path
import CodeGraph.Source.Pattern
import CodeGraph.Source.Route
import CodeGraph.Source.Specifier
import CodeGraph.StandIn.CommandLine.Arguments
import CodeGraph.StandIn.CommandLine.Reader
import CodeGraph.StandIn.Console.Cluster
import CodeGraph.StandIn.Console.Color
import CodeGraph.StandIn.Console.Emoji
import CodeGraph.StandIn.Console.Handler
import CodeGraph.StandIn.Console.Library
import CodeGraph.StandIn.Console.Markup
import CodeGraph.StandIn.Console.Style
import CodeGraph.StandIn.Console.TableText
import CodeGraph.StandIn.Console.Width
import CodeGraph.StandIn.Console.Wrap
import CodeGraph.StandIn.Libraries
import CodeGraph.StandIn.Toml.Fault
import CodeGraph.StandIn.Toml.Layout
import CodeGraph.StandIn.Toml.Library
import CodeGraph.StandIn.Toml.Quotes
import CodeGraph.StandIn.Toml.Reader
import CodeGraph.StandIn.Toml.Value
import CodeGraph.StandIn.Toml.Writer
import CodeGraph.Text.Basic
import CodeGraph.Text.Blank
import CodeGraph.Text.Case
import CodeGraph.Text.Position
import CodeGraph.Text.Printable
import CodeGraph.Text.Quoted
import CodeGraph.Text.Ranges
import CodeGraph.Text.Split
import CodeGraph.Text.Utf8
import CodeGraph.Text.Word
import CodeGraph.Toml.Library
import CodeGraph.Toml.Value
import CodeGraph.Proofs.Firsts
import CodeGraph.Proofs.Registry.Growth
import CodeGraph.Proofs.Registry.Lookup
import CodeGraph.Proofs.Scan.Catalogue
import CodeGraph.Proofs.Scan.Routes
import CodeGraph.Proofs.Scan.Analysis
import CodeGraph.Proofs.Scan.Registration
import CodeGraph.Proofs.Scan.Run
import CodeGraph.Proofs.Scan.Outline
import CodeGraph.Proofs.Scan.WellFormed
import CodeGraph.Proofs.Path.Walk
import CodeGraph.Proofs.Pattern.Pieces
import CodeGraph.Proofs.Pattern.RequireCall
import CodeGraph.Proofs.Scan.RelativeRequire
import CodeGraph.Proofs.Scan.EndpointLayer
import CodeGraph.Proofs.Scan.Labels
import CodeGraph.Proofs.Scan.Appending
import CodeGraph.Proofs.Scan.NodeList
import CodeGraph.Proofs.Scan.ImportOrigin
import CodeGraph.Proofs.Scan.Pool
import CodeGraph.Proofs.Scan.ReadingOrder
import CodeGraph.Proofs.Graph.Reload
import CodeGraph.Proofs.Scan.Reload
import CodeGraph.Proofs.Json.NumberText
import CodeGraph.Proofs.Json.StringText
import CodeGraph.Proofs.Json.ValueText
import CodeGraph.Proofs.Graph.Legible
import CodeGraph.Proofs.Scan.Causality
import CodeGraph.Proofs.Scan.FileOrder
import CodeGraph.Proofs.Registry.Blocks
import CodeGraph.Proofs.Registry.Calls
import CodeGraph.Proofs.Graph.Drawing
import CodeGraph.Proofs.Scan.Questions
import CodeGraph.Proofs.Scan.Selection
import CodeGraph.Proofs.Scan.Finished
import CodeGraph.Proofs.Scan.Alignment
import CodeGraph.Proofs.Text.Utf8
import CodeGraph.Proofs.Text.SortDistinct
import CodeGraph.Proofs.Settings.Alike
import CodeGraph.Proofs.Settings.InEffect
import CodeGraph.Proofs.Settings.Storing
import CodeGraph.Proofs.Settings.History
import CodeGraph.Proofs.Settings.Containment
import CodeGraph.Proofs.Settings.Overwriting
import CodeGraph.Proofs.Graph.Loading
import CodeGraph.Proofs.Graph.Focus
import CodeGraph.Proofs.Console.Contract
import CodeGraph.Proofs.Json.Ascii
import CodeGraph.Proofs.Console.Reports
import CodeGraph.Proofs.Console.Scanning
import CodeGraph.Proofs.Console.Agreement
import CodeGraph.Proofs.Path.Segments
import CodeGraph.Proofs.Registry.Endings
import CodeGraph.Proofs.Registry.IndexFiles
import CodeGraph.Proofs.Registry.RelativePaths
import CodeGraph.Proofs.Path.EmptySegments
import CodeGraph.Proofs.Registry.Answers
import CodeGraph.Proofs.Pattern.Passing
import CodeGraph.Proofs.Pattern.ImportStatement
import CodeGraph.Proofs.Pattern.Statements
import CodeGraph.Proofs.Pattern.ImportLine
import CodeGraph.Proofs.Pattern.ImportLines
import CodeGraph.Proofs.Graph.Acceptance
import CodeGraph.Proofs.Registry.Detection
import CodeGraph.Proofs.Pattern.RouteCalls
import CodeGraph.Proofs.Pattern.RouteBlocks
import CodeGraph.Proofs.Text.Lower
import CodeGraph.Proofs.Settings.ExtensionForms
import CodeGraph.Proofs.Console.SavedExtensions
import CodeGraph.Proofs.Graph.RepeatedIds
import CodeGraph.Proofs.Registry.Redraw
import CodeGraph.Proofs.Scan.Cancellation
import CodeGraph.Proofs.Folder.Resolution
import CodeGraph.Proofs.Folder.Discovery
