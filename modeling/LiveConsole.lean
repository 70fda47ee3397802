import LiveConsole.Text.Classes
import LiveConsole.Text.Quoted
import LiveConsole.Number.Layout
import LiveConsole.Number.Reading
import LiveConsole.Json.Printer
import LiveConsole.Json.Reader
import LiveConsole.Line.Rpn
import LiveConsole.Value
import LiveConsole.Log
import LiveConsole.Settings.Basic
import LiveConsole.Presenter
import LiveConsole.Command
import LiveConsole.Evaluation.Session
import LiveConsole.Hint
import LiveConsole.Discovery
import LiveConsole.Settings.Schema
import LiveConsole.Scene.Commands
import LiveConsole.CommandLine.Console
import LiveConsole.Main
import LiveConsole.Proofs.Line.Coverage
import LiveConsole.Proofs.Line.Arrangement
import LiveConsole.Proofs.Line.Phrase
import LiveConsole.Proofs.Line.Relocation
import LiveConsole.Proofs.Line.Boundary
import LiveConsole.Proofs.Line.Conservation
import LiveConsole.Proofs.Line.Spacing
import LiveConsole.Proofs.Line.Grouped
import LiveConsole.Proofs.Line.Quotation
import LiveConsole.Proofs.Keyed
import LiveConsole.Proofs.Registry.Reachable
import LiveConsole.Proofs.Registry.Registration
import LiveConsole.Proofs.Registry.TypeTree
import LiveConsole.Proofs.Evaluation.Run
import LiveConsole.Proofs.Evaluation.Call
import LiveConsole.Proofs.Evaluation.Relocation
import LiveConsole.Proofs.Evaluation.Frame
import LiveConsole.Proofs.Evaluation.Layout
import LiveConsole.Proofs.Evaluation.Grouping
import LiveConsole.Proofs.Evaluation.Session
import LiveConsole.Proofs.Evaluation.WellFormed
import LiveConsole.Proofs.Evaluation.Typing
import LiveConsole.Proofs.Evaluation.Provenance
import LiveConsole.Proofs.Line.Occurrence
import LiveConsole.Proofs.Hint.Location
import LiveConsole.Proofs.Hint.Replay
import LiveConsole.Proofs.Hint.Agreement
import LiveConsole.Proofs.Hint.Closed
import LiveConsole.Proofs.Registry.Dispatch
import LiveConsole.Proofs.Evaluation.Depth
import LiveConsole.Proofs.Evaluation.Variables
import LiveConsole.Proofs.Evaluation.Operators
import LiveConsole.Proofs.Registry.Assignability
import LiveConsole.Proofs.Json.Spelling
import LiveConsole.Proofs.Line.Respelling
import LiveConsole.Proofs.Json.Reading
import LiveConsole.Proofs.Settings.RoundTrip
import LiveConsole.Proofs.Line.Unfinished
import LiveConsole.Proofs.Hint.Unfinished
import LiveConsole.Proofs.Line.Enclosed
import LiveConsole.Proofs.Evaluation.Desugaring
import LiveConsole.Proofs.Evaluation.Concatenation
import LiveConsole.Proofs.Evaluation.Fault
import LiveConsole.Proofs.Hint.Meaning
import LiveConsole.Proofs.Hint.Named
import LiveConsole.Proofs.Hint.Partial
import LiveConsole.Proofs.Registry.Conversion
import LiveConsole.Proofs.Registry.RoundTrip
import LiveConsole.Proofs.Evaluation.Transcript
import LiveConsole.Proofs.Evaluation.Span
import LiveConsole.Proofs.Evaluation.Indexing
import LiveConsole.Proofs.Registry.Resolution
import LiveConsole.Proofs.Scrollback
import LiveConsole.Proofs.Line.Shape
import LiveConsole.Proofs.Evaluation.Effects
import LiveConsole.Proofs.Scene.Setup
import LiveConsole.Proofs.Scene.Deeds
import LiveConsole.Proofs.Scene.Course
import LiveConsole.Proofs.Scene.Names
import LiveConsole.Proofs.Scene.Owners
import LiveConsole.Proofs.Line.Division
import LiveConsole.Proofs.Hint.Identity
