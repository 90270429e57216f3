import SharpToJava.Compiler
import SharpToJava.Decimal.Basic
import SharpToJava.Decimal.Binary64
import SharpToJava.Decimal.Shortest
import SharpToJava.Decl.Basic
import SharpToJava.Decl.Harvest
import SharpToJava.Dump.Reader
import SharpToJava.Dump.Writer
import SharpToJava.Elapsed
import SharpToJava.FileStore
import SharpToJava.Fragment
import SharpToJava.Graph.Basic
import SharpToJava.Graph.OfUnit
import SharpToJava.Imports
import SharpToJava.Java.Source
import SharpToJava.Java.Vocabulary
import SharpToJava.Json.Basic
import SharpToJava.Json.Check
import SharpToJava.Json.Reader
import SharpToJava.Layout.Basic
import SharpToJava.Layout.Rules
import SharpToJava.Phrase.Basic
import SharpToJava.Phrase.Idiom
import SharpToJava.Phrase.Member
import SharpToJava.Phrase.Rules
import SharpToJava.Proofs.Braces
import SharpToJava.Proofs.Decl.Promise
import SharpToJava.Proofs.Decl.Source
import SharpToJava.Proofs.Dump.Reading
import SharpToJava.Proofs.Dump.RoundTrip
import SharpToJava.Proofs.GuardedStatement
import SharpToJava.Proofs.Holes.Tree
import SharpToJava.Proofs.Layout.Promise
import SharpToJava.Proofs.Layout.Wording
import SharpToJava.Proofs.Likeness.Output
import SharpToJava.Proofs.Likeness.Rules
import SharpToJava.Proofs.Likeness.Tree
import SharpToJava.Proofs.Phrase.Lines
import SharpToJava.Proofs.Phrase.Promise
import SharpToJava.Proofs.Phrase.Rendering
import SharpToJava.Proofs.Phrase.Wording
import SharpToJava.Proofs.Run.Meets
import SharpToJava.Proofs.Text.Nesting
import SharpToJava.Proofs.Totality
import SharpToJava.Proofs.Tree.Below
import SharpToJava.Proofs.TypeMap.Characters
import SharpToJava.Run
import SharpToJava.Service
import SharpToJava.Session
import SharpToJava.Settings
import SharpToJava.Target
import SharpToJava.Text.Blank
import SharpToJava.Text.CodeRange
import SharpToJava.Text.Lowercase
import SharpToJava.Text.Printable
import SharpToJava.Text.Quoted
import SharpToJava.Text.Uppercase
import SharpToJava.Tree.ForParts
import SharpToJava.Tree.Kind
import SharpToJava.Tree.Node
import SharpToJava.Tree.Place
import SharpToJava.Tree.Slot
import SharpToJava.Tree.TypeText
import SharpToJava.Table
import SharpToJava.TypeMap
import SharpToJava.Proofs.Holes.Phrase
import SharpToJava.Proofs.Holes.Layout
import SharpToJava.Proofs.Counters
import SharpToJava.Proofs.Conventions
import SharpToJava.Proofs.ImportList
import SharpToJava.Proofs.Outline
import SharpToJava.Proofs.Run.Steps
import SharpToJava.Proofs.WriteOnly
import SharpToJava.Proofs.Tree.TypeTree
import SharpToJava.Proofs.TypeMap.Components
import SharpToJava.Proofs.TypeMap.Structure
import SharpToJava.Proofs.TypeMap.Alone
import SharpToJava.Proofs.Roles
import SharpToJava.Proofs.Pointwise
import SharpToJava.Proofs.Dump.Grammar
import SharpToJava.Proofs.Graph.Listing
import SharpToJava.Proofs.Graph.Members
import SharpToJava.Proofs.Graph.Faithful
import SharpToJava.Proofs.Decl.Accounting
import SharpToJava.Proofs.Graph.Order
import SharpToJava.Proofs.Run.Outcome
import SharpToJava.Proofs.Layout.Depth
import SharpToJava.Proofs.Layout.Position
import SharpToJava.Proofs.BlockLines
import SharpToJava.Proofs.Phrase.Shift
import SharpToJava.Proofs.Indentation
import SharpToJava.Proofs.Tree.Brackets
import SharpToJava.Proofs.Phrase.Balance
import SharpToJava.Proofs.Parentheses
import SharpToJava.Proofs.SharedFragment
import SharpToJava.Proofs.ArrayBrackets
import SharpToJava.Proofs.TypeMap.Survivors
import SharpToJava.Proofs.ImportHistory
import SharpToJava.Proofs.BackingFields
import SharpToJava.Proofs.TypeMap.Dictionary
import SharpToJava.Proofs.VerbatimLiteral
import SharpToJava.Proofs.FreshNames
import SharpToJava.Proofs.LoopHeader
import SharpToJava.Proofs.Graph.History
import SharpToJava.Proofs.Decl.Bases
import SharpToJava.Proofs.Tree.Preorder
import SharpToJava.Proofs.Tree.TypeSyntax
import SharpToJava.Proofs.FileOutcome
import SharpToJava.Proofs.Lists
import SharpToJava.Proofs.TypeMap.View
