import Manifest.Catalog
import Manifest.Collection
import Manifest.CommandLine
import Manifest.CommandLine.Run
import Manifest.Compiler
import Manifest.Config
import Manifest.Config.File
import Manifest.Environment
import Manifest.EvalError
import Manifest.Evaluation
import Manifest.Evaluation.Definition
import Manifest.Evaluation.Expression
import Manifest.Evaluation.Finish
import Manifest.Evaluation.State
import Manifest.Evaluation.Statement
import Manifest.Event
import Manifest.Event.Directive
import Manifest.Event.Filter
import Manifest.Event.Line
import Manifest.Event.Pattern
import Manifest.FileTree
import Manifest.FileTree.Record
import Manifest.Grammar
import Manifest.Grammar.Expression
import Manifest.Grammar.Statement
import Manifest.Grammar.Stream
import Manifest.Json
import Manifest.Json.Reader
import Manifest.Json.Record
import Manifest.Json.Writer
import Manifest.Location
import Manifest.Main
import Manifest.Name
import Manifest.Node
import Manifest.OrderedSet
import Manifest.ParseError
import Manifest.Proofs.Bounds
import Manifest.Proofs.Bounds.Evaluation
import Manifest.Proofs.Bounds.Evaluator
import Manifest.Proofs.Bounds.Lexing
import Manifest.Proofs.Bounds.Operands
import Manifest.Proofs.Bounds.Scopes
import Manifest.Proofs.Bounds.Text
import Manifest.Proofs.Bounds.Tokens
import Manifest.Proofs.Capitalized
import Manifest.Proofs.Catalog.Changes
import Manifest.Proofs.Catalog.Containment
import Manifest.Proofs.Catalog.Displayed
import Manifest.Proofs.Catalog.Written
import Manifest.Proofs.Collection
import Manifest.Proofs.Collection.Duplicates
import Manifest.Proofs.Collection.Index
import Manifest.Proofs.Collection.Lookup
import Manifest.Proofs.Collection.Specificity
import Manifest.Proofs.Compiler.Fresh
import Manifest.Proofs.Compiler.Independence
import Manifest.Proofs.Compiler.Outlook
import Manifest.Proofs.Compiler.Registration
import Manifest.Proofs.Compiler.Session
import Manifest.Proofs.Compiler.Versions
import Manifest.Proofs.Compiler.Workshop
import Manifest.Proofs.Environment.Reloading
import Manifest.Proofs.Environment.Written
import Manifest.Proofs.Evaluation.CaseChoice
import Manifest.Proofs.Evaluation.ClassBodies
import Manifest.Proofs.Evaluation.ClassReferences
import Manifest.Proofs.Evaluation.ClassesOnce
import Manifest.Proofs.Evaluation.Comparisons
import Manifest.Proofs.Evaluation.Completion
import Manifest.Proofs.Evaluation.Containment
import Manifest.Proofs.Evaluation.Coupling
import Manifest.Proofs.Evaluation.DeclaredReferences
import Manifest.Proofs.Evaluation.FactOrder
import Manifest.Proofs.Evaluation.Includers
import Manifest.Proofs.Evaluation.Inheritance
import Manifest.Proofs.Evaluation.Instances
import Manifest.Proofs.Evaluation.Lockstep
import Manifest.Proofs.Evaluation.Operations
import Manifest.Proofs.Evaluation.Persistence
import Manifest.Proofs.Evaluation.Reachability
import Manifest.Proofs.Evaluation.RegistryGrowth
import Manifest.Proofs.Evaluation.Relationships
import Manifest.Proofs.Evaluation.Room
import Manifest.Proofs.Evaluation.Simulation
import Manifest.Proofs.Evaluation.Step
import Manifest.Proofs.Evaluation.Strictness
import Manifest.Proofs.Evaluation.Termination
import Manifest.Proofs.Evaluation.Variables
import Manifest.Proofs.Evaluation.Watch
import Manifest.Proofs.Grammar.Answers
import Manifest.Proofs.Grammar.Bare
import Manifest.Proofs.Grammar.BuiltTrees
import Manifest.Proofs.Grammar.Carried
import Manifest.Proofs.Grammar.CarriedExpression
import Manifest.Proofs.Grammar.CarriedStatement
import Manifest.Proofs.Grammar.CaseArms
import Manifest.Proofs.Grammar.Concatenation
import Manifest.Proofs.Grammar.DefinedNames
import Manifest.Proofs.Grammar.ExpressionRoundTrip
import Manifest.Proofs.Grammar.FullReading
import Manifest.Proofs.Grammar.Headings
import Manifest.Proofs.Grammar.InStep
import Manifest.Proofs.Grammar.InStepExpression
import Manifest.Proofs.Grammar.InStepStatement
import Manifest.Proofs.Grammar.InputEnd
import Manifest.Proofs.Grammar.Parse
import Manifest.Proofs.Grammar.Reads
import Manifest.Proofs.Grammar.RoundTrip
import Manifest.Proofs.Grammar.StatementRoundTrip
import Manifest.Proofs.Grammar.Superseded
import Manifest.Proofs.Grammar.WellFormed
import Manifest.Proofs.Grammar.Written
import Manifest.Proofs.Json.ReadBack
import Manifest.Proofs.LooseEquality
import Manifest.Proofs.Name
import Manifest.Proofs.Namespace
import Manifest.Proofs.Recapitalized
import Manifest.Proofs.Reference
import Manifest.Proofs.Scope.Visibility
import Manifest.Proofs.Source.Staleness
import Manifest.Proofs.Text.Ascii
import Manifest.Proofs.Text.Case
import Manifest.Proofs.Text.Wrapped
import Manifest.Proofs.Token.Closing
import Manifest.Proofs.Token.Interpolation
import Manifest.Proofs.Token.Languages
import Manifest.Proofs.Token.Layout
import Manifest.Proofs.Token.Lexemes
import Manifest.Proofs.Token.LineBreak
import Manifest.Proofs.Token.Names
import Manifest.Proofs.Token.Quoted
import Manifest.Proofs.Token.RoundTrip
import Manifest.Proofs.Token.Seam
import Manifest.Proofs.Token.Spelling
import Manifest.Proofs.Token.Walk
import Manifest.Proofs.Tree.Occurrences
import Manifest.Proofs.Tree.Parts
import Manifest.Proofs.Tree.Relocated
import Manifest.Reference
import Manifest.Registry
import Manifest.Resource
import Manifest.Scope
import Manifest.Shell
import Manifest.Shell.Arithmetic
import Manifest.Shell.Builtin
import Manifest.Shell.Line
import Manifest.Shell.Run
import Manifest.Source
import Manifest.Source.Directory
import Manifest.Source.Memory
import Manifest.Table
import Manifest.Text.Blank
import Manifest.Text.Case
import Manifest.Text.CaseTable
import Manifest.Text.LetterTable
import Manifest.Text.PrintTable
import Manifest.Text.Quoted
import Manifest.Text.Ranges
import Manifest.Text.Split
import Manifest.Text.Utf8
import Manifest.Text.Word
import Manifest.Text.WordTable
import Manifest.Timestamp
import Manifest.Token
import Manifest.Token.Lexer
import Manifest.Token.Template
import Manifest.Tree
import Manifest.Tree.Placement
import Manifest.Value
import Manifest.Version
import Manifest.Version.Stamp
