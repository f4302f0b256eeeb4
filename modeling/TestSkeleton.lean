import TestSkeleton.Annotation.ConstructorArguments
import TestSkeleton.Annotation.Line
import TestSkeleton.Annotation.Tag
import TestSkeleton.Assertion.Basic
import TestSkeleton.Assertion.Expression
import TestSkeleton.Assertion.Kind
import TestSkeleton.Assertion.Template
import TestSkeleton.Calendar
import TestSkeleton.Calendar.Reading
import TestSkeleton.Check.Basic
import TestSkeleton.Check.Comparison
import TestSkeleton.Check.Declaration
import TestSkeleton.Check.Outcome
import TestSkeleton.ClassInfo.Basic
import TestSkeleton.ClassInfo.Description
import TestSkeleton.ClassInfo.Reading
import TestSkeleton.CommandLine.Option
import TestSkeleton.CommandLine.Page
import TestSkeleton.CommandLine.Request
import TestSkeleton.CommandLine.Run
import TestSkeleton.Event
import TestSkeleton.File.Path
import TestSkeleton.File.System
import TestSkeleton.Logger
import TestSkeleton.Machine
import TestSkeleton.MethodName
import TestSkeleton.Number.Binary64
import TestSkeleton.Number.Reading
import TestSkeleton.Number.Shortest
import TestSkeleton.Raised
import TestSkeleton.Regex.Basic
import TestSkeleton.Regex.Matching
import TestSkeleton.Regex.Reading
import TestSkeleton.Source.Attribute
import TestSkeleton.Source.Binding
import TestSkeleton.Source.Builtin
import TestSkeleton.Source.Call
import TestSkeleton.Source.Class
import TestSkeleton.Source.ClassTable
import TestSkeleton.Source.Execution
import TestSkeleton.Source.Fault
import TestSkeleton.Source.Field
import TestSkeleton.Source.Item
import TestSkeleton.Source.Linearization
import TestSkeleton.Source.Loading
import TestSkeleton.Source.NewClass
import TestSkeleton.Source.Signature
import TestSkeleton.Source.Table.Attribute
import TestSkeleton.Source.Table.ClassDoc
import TestSkeleton.Source.Table.FunctionDoc
import TestSkeleton.Source.Table.MethodDoc
import TestSkeleton.Step
import TestSkeleton.Template.Basic
import TestSkeleton.Template.Library
import TestSkeleton.Template.Literal
import TestSkeleton.Template.Packaged
import TestSkeleton.Template.Reading
import TestSkeleton.Template.Token
import TestSkeleton.TestClass
import TestSkeleton.TestFile
import TestSkeleton.Text.Basic
import TestSkeleton.Text.Case
import TestSkeleton.Text.CharacterName
import TestSkeleton.Text.Class
import TestSkeleton.Text.Encoding
import TestSkeleton.Text.Escaped
import TestSkeleton.Text.Indent
import TestSkeleton.Text.Likeness
import TestSkeleton.Text.Normal
import TestSkeleton.Text.Quoted
import TestSkeleton.Text.Shortened
import TestSkeleton.Text.Table.Case
import TestSkeleton.Text.Table.CharacterName
import TestSkeleton.Text.Table.Decomposition
import TestSkeleton.Text.Table.Name
import TestSkeleton.Text.Table.Printable
import TestSkeleton.Text.Table.Word
import TestSkeleton.Text.Terminal
import TestSkeleton.Value.Basic
import TestSkeleton.Value.Collection
import TestSkeleton.Value.Equality
import TestSkeleton.Value.Order
import TestSkeleton.Value.Part
import TestSkeleton.Value.Printing
import TestSkeleton.Yaml.Construction
import TestSkeleton.Yaml.Cursor
import TestSkeleton.Yaml.Node
import TestSkeleton.Yaml.Scalar
import TestSkeleton.Yaml.Tag
import TestSkeleton.Yaml.Token
import TestSkeleton.Main
import TestSkeleton.Proofs.Event
import TestSkeleton.Proofs.Step
import TestSkeleton.Proofs.Machine
import TestSkeleton.Proofs.MethodName
import TestSkeleton.Proofs.File.System
import TestSkeleton.Proofs.Text.Encoding
import TestSkeleton.Proofs.Text.Lines
import TestSkeleton.Proofs.Text.Terminal
import TestSkeleton.Proofs.Text.Word
import TestSkeleton.Proofs.Annotation.Line
import TestSkeleton.Proofs.Annotation.RoundTrip
import TestSkeleton.Proofs.Annotation.Decomposition
import TestSkeleton.Proofs.Annotation.Agreement
import TestSkeleton.Proofs.Annotation.Decoration
import TestSkeleton.Proofs.Assertion.Basic
import TestSkeleton.Proofs.Assertion.Expression
import TestSkeleton.Proofs.Assertion.Completeness
import TestSkeleton.Proofs.Template.Packaged
import TestSkeleton.Proofs.Template.Engine
import TestSkeleton.Proofs.Template.Standard
import TestSkeleton.Proofs.TestClass.Plan
import TestSkeleton.Proofs.TestClass.Order
import TestSkeleton.Proofs.TestClass.Failure
import TestSkeleton.Proofs.TestClass.Outcome
import TestSkeleton.Proofs.TestClass.Text
import TestSkeleton.Proofs.TestClass.Effects
import TestSkeleton.Proofs.Source.Printing
import TestSkeleton.Proofs.Source.Layer
import TestSkeleton.Proofs.Source.NewClass
import TestSkeleton.Proofs.Source.SingleBase
import TestSkeleton.Proofs.Source.Runs
import TestSkeleton.Proofs.Source.Growth
import TestSkeleton.Proofs.Source.Function
import TestSkeleton.Proofs.Source.Inheritance
import TestSkeleton.Proofs.Source.Describing
import TestSkeleton.Proofs.Source.Loading
import TestSkeleton.Proofs.CommandLine.Generation
import TestSkeleton.Proofs.CommandLine.KnownCode
import TestSkeleton.Proofs.CommandLine.Ending
import TestSkeleton.Proofs.CommandLine.Format
import TestSkeleton.Proofs.Annotation.Preface
import TestSkeleton.Proofs.TestClass.Comment
import TestSkeleton.Proofs.Logger
import TestSkeleton.Proofs.TestClass.Calls
import TestSkeleton.Proofs.TestClass.Override
import TestSkeleton.Proofs.Check.Opposite
import TestSkeleton.Proofs.Check.Membership
import TestSkeleton.Proofs.Assertion.Printing
import TestSkeleton.Proofs.MethodName.Numbering
import TestSkeleton.Proofs.MethodName.Search
import TestSkeleton.Proofs.MethodName.Apart
import TestSkeleton.Proofs.TestClass.Stability
import TestSkeleton.Proofs.Annotation.Succession
import TestSkeleton.Proofs.Annotation.MarkedLine
import TestSkeleton.Proofs.Annotation.ConstructorArguments
import TestSkeleton.Proofs.Source.Methods
import TestSkeleton.Proofs.Source.Hiding
import TestSkeleton.Proofs.Text.Newline
import TestSkeleton.Proofs.Source.ClassLine
import TestSkeleton.Proofs.Source.FirstClass
import TestSkeleton.Proofs.Text.LineAround
import TestSkeleton.Proofs.Annotation.ArgumentLine
import TestSkeleton.Proofs.Text.Case
import TestSkeleton.Proofs.Assertion.Kind
import TestSkeleton.Proofs.Assertion.Reading
import TestSkeleton.Proofs.Assertion.Extraction
import TestSkeleton.Proofs.ClassInfo.Fields
import TestSkeleton.Proofs.ClassInfo.Writing
import TestSkeleton.Proofs.File.Frame
import TestSkeleton.Proofs.File.DefaultPath
import TestSkeleton.Proofs.Check.Same
import TestSkeleton.Proofs.ClassInfo.Description
import TestSkeleton.Proofs.Yaml.Construction
import TestSkeleton.Proofs.Yaml.Node
import TestSkeleton.Proofs.Yaml.Plain
import TestSkeleton.Proofs.Yaml.Document
