import NativeBindings.BindingsFile
import NativeBindings.Classification
import NativeBindings.CommandLine
import NativeBindings.CommandLine.Arguments
import NativeBindings.CommandLine.Help
import NativeBindings.Decimal.Binary64
import NativeBindings.Decimal.Shortest
import NativeBindings.Declarations
import NativeBindings.Diagnostic
import NativeBindings.Draft
import NativeBindings.Draft.Fragments
import NativeBindings.GeneratedSource
import NativeBindings.Identifier
import NativeBindings.Main
import NativeBindings.ManagedType
import NativeBindings.Marshalling
import NativeBindings.MethodName
import NativeBindings.NativeType
import NativeBindings.NativeType.Spelling
import NativeBindings.Nesting
import NativeBindings.Outcome
import NativeBindings.Progress
import NativeBindings.Rule
import NativeBindings.Rule.Catalogue
import NativeBindings.Rule.OutputText
import NativeBindings.Rule.Passing
import NativeBindings.Rule.Returning
import NativeBindings.Settings
import NativeBindings.Signature
import NativeBindings.Statement
import NativeBindings.Text.Quoted
import NativeBindings.Text.Width
import NativeBindings.Toml.DateTime
import NativeBindings.Toml.Document
import NativeBindings.Toml.Item
import NativeBindings.Toml.Quotation
import NativeBindings.Toml.Scalar
import NativeBindings.Toml.Shape
import NativeBindings.Toml.Table
import NativeBindings.Unicode.Alphanumeric
import NativeBindings.Unicode.CaseMapping
import NativeBindings.Unicode.CodeRun
import NativeBindings.Unicode.Graphic
import NativeBindings.Unicode.LetterCase
import NativeBindings.Proofs.Matching
import NativeBindings.Proofs.Commit
import NativeBindings.Proofs.RuleCommits
import NativeBindings.Proofs.FirstRule
import NativeBindings.Proofs.Run
import NativeBindings.Proofs.Domain
import NativeBindings.Proofs.NativeDeclaration
import NativeBindings.Proofs.Body
import NativeBindings.Proofs.Nested
import NativeBindings.Proofs.Execution
import NativeBindings.Proofs.GrowableText
import NativeBindings.Proofs.RunOrder
import NativeBindings.Proofs.Epilogue
import NativeBindings.Proofs.Exit
import NativeBindings.Proofs.OutputPairs
import NativeBindings.Proofs.CallTarget
import NativeBindings.Proofs.LocalNames
import NativeBindings.Proofs.Scoping
import NativeBindings.Proofs.ScopedLocals
import NativeBindings.Proofs.Session
import NativeBindings.Proofs.Lockstep
import NativeBindings.Proofs.TableExtension
import NativeBindings.Proofs.ReceiverElision
import NativeBindings.Proofs.ManagedInterface
import NativeBindings.Proofs.Reordering
import NativeBindings.Proofs.SpellingGrammar
import NativeBindings.Proofs.SpellingText
import NativeBindings.Proofs.TextBlocks
import NativeBindings.Proofs.DerivedName
import NativeBindings.Proofs.FragmentLines
import NativeBindings.Proofs.LoadedFile
import NativeBindings.Proofs.ComposedSource
import NativeBindings.Proofs.FirstInvalidType
import NativeBindings.Proofs.CommandRuns
import NativeBindings.Proofs.EditHistory
import NativeBindings.Proofs.OutputText
import NativeBindings.Proofs.SpellingOffset
import NativeBindings.Proofs.Margin
import NativeBindings.Proofs.UsableName
import NativeBindings.Proofs.SnakeName
