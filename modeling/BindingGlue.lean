import BindingGlue.Batch.Header
import BindingGlue.Batch.Output
import BindingGlue.Batch.Report
import BindingGlue.Batch.Run
import BindingGlue.Batch.Session
import BindingGlue.Batch.Trace
import BindingGlue.CommandLine.Files
import BindingGlue.CommandLine.Path
import BindingGlue.CommandLine.Program
import BindingGlue.CommandLine.Run
import BindingGlue.CommandLine.Settings
import BindingGlue.Conversion.Expand
import BindingGlue.Conversion.Fault
import BindingGlue.Conversion.Field
import BindingGlue.Conversion.Number
import BindingGlue.Conversion.Style
import BindingGlue.Fragments.Basic
import BindingGlue.Fragments.Native
import BindingGlue.Fragments.Typed
import BindingGlue.Generator
import BindingGlue.Interpreter.Engine
import BindingGlue.Interpreter.Loop
import BindingGlue.Interpreter.Node
import BindingGlue.Interpreter.Reader
import BindingGlue.Interpreter.Spelling
import BindingGlue.Interpreter.Value
import BindingGlue.Log.Event
import BindingGlue.Log.Layout
import BindingGlue.Log.Level
import BindingGlue.Log.Setup
import BindingGlue.Main
import BindingGlue.Naming
import BindingGlue.Options
import BindingGlue.Proofs.Batch.Header
import BindingGlue.Proofs.Batch.Layout
import BindingGlue.Proofs.Batch.Lossless
import BindingGlue.Proofs.Batch.Refused
import BindingGlue.Proofs.Batch.Report
import BindingGlue.Proofs.Batch.Run
import BindingGlue.Proofs.Batch.Sections
import BindingGlue.Proofs.Batch.Session
import BindingGlue.Proofs.Batch.Shape
import BindingGlue.Proofs.Batch.Trace
import BindingGlue.Proofs.CommandLine.Log
import BindingGlue.Proofs.CommandLine.Program
import BindingGlue.Proofs.CommandLine.Settings
import BindingGlue.Proofs.Conversion.Verbatim
import BindingGlue.Proofs.Fragments.Accessors
import BindingGlue.Proofs.Fragments.Agreement
import BindingGlue.Proofs.Fragments.Calls
import BindingGlue.Proofs.Fragments.Declarations
import BindingGlue.Proofs.Fragments.Extraction
import BindingGlue.Proofs.Fragments.Faults
import BindingGlue.Proofs.Fragments.Lines
import BindingGlue.Proofs.Fragments.Lists
import BindingGlue.Proofs.Fragments.Modes
import BindingGlue.Proofs.Fragments.Names
import BindingGlue.Proofs.Fragments.Native
import BindingGlue.Proofs.Fragments.Ownership
import BindingGlue.Proofs.Fragments.Property
import BindingGlue.Proofs.Fragments.Summary
import BindingGlue.Proofs.Fragments.TypedNames
import BindingGlue.Proofs.Generator
import BindingGlue.Proofs.Interpreter.Documented
import BindingGlue.Proofs.Interpreter.Loop
import BindingGlue.Proofs.Interpreter.Nodes
import BindingGlue.Proofs.Interpreter.Pieces
import BindingGlue.Proofs.Interpreter.Reading
import BindingGlue.Proofs.Log.Layout
import BindingGlue.Proofs.Naming
import BindingGlue.Proofs.Signature.Accepted
import BindingGlue.Proofs.Signature.ArgumentGrammar
import BindingGlue.Proofs.Signature.ArgumentNames
import BindingGlue.Proofs.Signature.Arguments
import BindingGlue.Proofs.Signature.BareName
import BindingGlue.Proofs.Signature.BothSides
import BindingGlue.Proofs.Signature.ClosedVocabulary
import BindingGlue.Proofs.Signature.Declaration
import BindingGlue.Proofs.Signature.DeclaredParts
import BindingGlue.Proofs.Signature.DefaultValues
import BindingGlue.Proofs.Signature.Enclosed
import BindingGlue.Proofs.Signature.Line
import BindingGlue.Proofs.Signature.MissingPart
import BindingGlue.Proofs.Signature.Printed
import BindingGlue.Proofs.Signature.Reading
import BindingGlue.Proofs.Signature.Refused
import BindingGlue.Proofs.Signature.Shape
import BindingGlue.Proofs.Signature.Summary
import BindingGlue.Proofs.Template.Rendering
import BindingGlue.Proofs.Template.Standard
import BindingGlue.Proofs.Template.Verbatim
import BindingGlue.Proofs.Text.Blocks
import BindingGlue.Proofs.Text.LineEnds
import BindingGlue.Proofs.Text.Lines
import BindingGlue.Proofs.Text.Occurrences
import BindingGlue.Proofs.Text.Runs
import BindingGlue.Proofs.Text.Spacing
import BindingGlue.Proofs.Text.Words
import BindingGlue.Proofs.Types.Catalogue
import BindingGlue.Proofs.Types.Extension
import BindingGlue.Proofs.Types.NormalForm
import BindingGlue.Proofs.Types.Sides
import BindingGlue.Proofs.Types.Usable
import BindingGlue.Refusal
import BindingGlue.Signature.Basic
import BindingGlue.Signature.Grammar
import BindingGlue.Signature.Printer
import BindingGlue.Signature.Reader
import BindingGlue.Signature.Shape
import BindingGlue.Template.Engine
import BindingGlue.Template.Fault
import BindingGlue.Template.Plain
import BindingGlue.Template.Shelf
import BindingGlue.Template.Value
import BindingGlue.Text.Blank
import BindingGlue.Text.Case
import BindingGlue.Text.Decimal
import BindingGlue.Text.Form
import BindingGlue.Text.Identifier
import BindingGlue.Text.Lines
import BindingGlue.Text.Members
import BindingGlue.Text.Padded
import BindingGlue.Text.Printable
import BindingGlue.Text.Quoted
import BindingGlue.Text.Ranges
import BindingGlue.Text.Word
import BindingGlue.Types.Basic
import BindingGlue.Types.Catalogue
import BindingGlue.Types.Spelling
import BindingGlue.Types.Vocabulary
