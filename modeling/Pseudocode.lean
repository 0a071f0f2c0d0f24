import Pseudocode.Lexicon.Kind
import Pseudocode.Lexicon.KindSet
import Pseudocode.Lexicon.Construct
import Pseudocode.Text.Blank
import Pseudocode.Text.Numeral
import Pseudocode.Text.CharClass
import Pseudocode.Text.Printable
import Pseudocode.Text.Width
import Pseudocode.Text.Quoted
import Pseudocode.Text.Lines
import Pseudocode.Json.Value
import Pseudocode.Json.Printer
import Pseudocode.Stream.Span
import Pseudocode.Stream.Token
import Pseudocode.Stream.Record
import Pseudocode.Fault
import Pseudocode.Trace
import Pseudocode.Stream.Reader
import Pseudocode.Names.SymbolTable
import Pseudocode.Names.AddressTable
import Pseudocode.Check.Settings
import Pseudocode.Check.Sections
import Pseudocode.Check.Assignment
import Pseudocode.Check.Condition
import Pseudocode.Check.Analysis
import Pseudocode.Output.Row
import Pseudocode.Output.Tables
import Pseudocode.Output.TokenDump
import Pseudocode.Report.Diagnostic
import Pseudocode.Report.Excerpt
import Pseudocode.Disk.Path
import Pseudocode.Disk.Basic
import Pseudocode.Disk.Tree
import Pseudocode.Output.Writer
import Pseudocode.CommandLine.Options
import Pseudocode.CommandLine.Run
import Pseudocode.Main
import Pseudocode.Proofs.Lexicon.Representations
import Pseudocode.Proofs.Names.History
import Pseudocode.Proofs.Check.Positions
import Pseudocode.Proofs.Check.Verdict
import Pseudocode.Proofs.Check.Tables
import Pseudocode.Proofs.Check.Resolution
import Pseudocode.Proofs.Check.Renaming
import Pseudocode.Proofs.Check.Assignments
import Pseudocode.Proofs.Check.Scans
import Pseudocode.Proofs.Check.Conditions
import Pseudocode.Proofs.Check.Repeats
import Pseudocode.Proofs.Check.Extension
import Pseudocode.Proofs.Check.Alike
import Pseudocode.Proofs.Check.Pieces
import Pseudocode.Proofs.Check.Exchange
import Pseudocode.Proofs.Check.Bounds
import Pseudocode.Proofs.Check.AssignmentLaw
import Pseudocode.Proofs.Check.ConditionScan
import Pseudocode.Proofs.Check.SharedTypes
import Pseudocode.Proofs.Check.Dialects
import Pseudocode.Proofs.Stream.Reading
import Pseudocode.Proofs.Stream.Records
import Pseudocode.Proofs.Stream.Provenance
import Pseudocode.Proofs.Stream.Layout
import Pseudocode.Proofs.Stream.Fields
import Pseudocode.Proofs.Stream.Grammar
import Pseudocode.Proofs.Stream.Placement
import Pseudocode.Proofs.Report.Location
import Pseudocode.Proofs.Output.Reread
import Pseudocode.Proofs.Output.Fixpoint
import Pseudocode.Proofs.Output.Collision
import Pseudocode.Proofs.Disk.Entries
import Pseudocode.Proofs.Disk.Operations
import Pseudocode.Proofs.Output.Replacement
import Pseudocode.Proofs.Output.Calls
import Pseudocode.Proofs.Output.LongNames
import Pseudocode.Proofs.Output.Telling
import Pseudocode.Proofs.Json.Grammar
import Pseudocode.Proofs.Json.Reading
import Pseudocode.Proofs.Output.Document
import Pseudocode.Proofs.CommandLine.Arguments
import Pseudocode.Proofs.CommandLine.Selection
import Pseudocode.Proofs.CommandLine.Effect
