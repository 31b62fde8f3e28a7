import Bibliography.Command
import Bibliography.Database.Configuration
import Bibliography.Database.Document
import Bibliography.Database.MacroTable
import Bibliography.Database.Pattern
import Bibliography.Database.Record
import Bibliography.Database.Rendering
import Bibliography.Database.Scanner
import Bibliography.Database.Value
import Bibliography.Disk
import Bibliography.Entry
import Bibliography.Error
import Bibliography.Files
import Bibliography.Location
import Bibliography.Main
import Bibliography.MessagePack.Reading
import Bibliography.MessagePack.Writing
import Bibliography.Person.Basic
import Bibliography.Person.Format
import Bibliography.Pipeline
import Bibliography.Snapshot
import Bibliography.SortedMap
import Bibliography.Style.Builtin
import Bibliography.Style.Evaluation
import Bibliography.Style.Instruction
import Bibliography.Style.InstructionText
import Bibliography.Style.Machine
import Bibliography.Style.Output
import Bibliography.Style.Program
import Bibliography.Style.Value
import Bibliography.Table.Basic
import Bibliography.Table.Citation
import Bibliography.Table.Label
import Bibliography.Table.Lookup
import Bibliography.Text.Basic
import Bibliography.Text.Case
import Bibliography.Text.Excerpt
import Bibliography.Text.Purify
import Bibliography.Text.Split
import Bibliography.Unicode.Alphabetic
import Bibliography.Unicode.CaseIgnorable
import Bibliography.Unicode.Cased
import Bibliography.Unicode.Character
import Bibliography.Unicode.CodePoint
import Bibliography.Unicode.LowerMapping
import Bibliography.Unicode.Lowercase
import Bibliography.Unicode.Numeric
import Bibliography.Unicode.UpperMapping
import Bibliography.Proofs.Database.Token
import Bibliography.Proofs.Database.Reading
import Bibliography.Proofs.Text.Balance
import Bibliography.Proofs.Database.Body
import Bibliography.Proofs.Database.Grammar
import Bibliography.Proofs.Database.Acceptance
import Bibliography.Proofs.Database.Assignments
import Bibliography.Proofs.Database.Documents
import Bibliography.Proofs.Person.Balance
import Bibliography.Proofs.Database.WellFormed
import Bibliography.Proofs.Database.RoundTrip
import Bibliography.Proofs.Database.Agreement
import Bibliography.Proofs.Database.Recovery
import Bibliography.Proofs.Table.Resolution
import Bibliography.Proofs.Table.Labels
import Bibliography.Proofs.Style.Observation
import Bibliography.Proofs.Style.Compositional
import Bibliography.Proofs.Style.Congruence
import Bibliography.Proofs.Style.Fuel
import Bibliography.Proofs.Style.Isolation
import Bibliography.Proofs.Style.Frame
import Bibliography.Proofs.Database.Fresh
import Bibliography.Proofs.Style.Failures
import Bibliography.Proofs.Pipeline
import Bibliography.Proofs.MessagePack.Headers
import Bibliography.Proofs.MessagePack.Values
import Bibliography.Proofs.Snapshot
import Bibliography.Proofs.MessagePack.Bounds
import Bibliography.Proofs.Style.Variables
import Bibliography.Proofs.Unicode.LowerCase
import Bibliography.Proofs.Text.Numeral
import Bibliography.Proofs.Style.Notation
import Bibliography.Proofs.Style.Reading
import Bibliography.Proofs.Person.Words
import Bibliography.Proofs.Style.Phases
import Bibliography.Proofs.MessagePack.Locality
import Bibliography.Proofs.Truncation
import Bibliography.Proofs.Text.Conjunction
import Bibliography.Proofs.Database.StoredNames
import Bibliography.Proofs.Database.Comments
import Bibliography.Proofs.Text.Junction
import Bibliography.Proofs.Database.Openings
import Bibliography.Proofs.Database.Runs
import Bibliography.Proofs.Database.Substitution
import Bibliography.Proofs.Table.Places
import Bibliography.Proofs.Table.Assignment
import Bibliography.Proofs.Table.History
import Bibliography.Proofs.Table.References
import Bibliography.Proofs.Style.Dispatch
import Bibliography.Proofs.Person.Pieces
import Bibliography.Proofs.Person.Grammar
import Bibliography.Proofs.Text.Words
import Bibliography.Proofs.Person.Rendering
import Bibliography.Proofs.Text.Groups
import Bibliography.Proofs.Person.Layout
import Bibliography.Proofs.Text.FullStop
import Bibliography.Proofs.Text.Window
import Bibliography.Proofs.Text.Truncate
import Bibliography.Proofs.Unicode.Marks
import Bibliography.Proofs.Style.CallStack
import Bibliography.Proofs.Text.Case
import Bibliography.Proofs.Text.Utf8
import Bibliography.Proofs.Text.Splitting
import Bibliography.Proofs.Location
import Bibliography.Proofs.Database.Positions
import Bibliography.Proofs.Database.Delimiters
import Bibliography.Proofs.Style.Ending
import Bibliography.Proofs.Style.Moves
import Bibliography.Proofs.Style.Descent
import Bibliography.Proofs.Style.Termination
import Bibliography.Proofs.Text.Places
import Bibliography.Proofs.Text.Boundaries
import Bibliography.Proofs.Lines
