import Playground.Batch
import Playground.CodeError
import Playground.CodeFrame
import Playground.CommandLine
import Playground.Compile
import Playground.Config
import Playground.Decimal
import Playground.File
import Playground.Host
import Playground.Imports.Generated
import Playground.Imports.Header
import Playground.Imports.Merge
import Playground.Json.Parser
import Playground.Json.Value
import Playground.Main
import Playground.Patch
import Playground.Proofs.Batch.Assembled
import Playground.Proofs.Batch.Blame
import Playground.Proofs.Batch.Compiled
import Playground.Proofs.Batch.Completion
import Playground.Proofs.Batch.Exports
import Playground.Proofs.Batch.Files
import Playground.Proofs.Batch.Independence
import Playground.Proofs.Batch.Outcome
import Playground.Proofs.Batch.Settled
import Playground.Proofs.Batch.Unified
import Playground.Proofs.Caret
import Playground.Proofs.CodeFrame
import Playground.Proofs.Host.Delivery
import Playground.Proofs.Host.Lines
import Playground.Proofs.Imports.Ahead
import Playground.Proofs.Imports.Found
import Playground.Proofs.Imports.Header
import Playground.Proofs.Imports.Lines
import Playground.Proofs.Imports.Merge
import Playground.Proofs.Imports.Merged
import Playground.Proofs.Imports.NamedPattern
import Playground.Proofs.Imports.Printed
import Playground.Proofs.Imports.Statement
import Playground.Proofs.Json.Reading
import Playground.Proofs.PastEnd
import Playground.Proofs.Patch
import Playground.Proofs.Patched
import Playground.Proofs.Report
import Playground.Proofs.Script.Grammar.Expressions
import Playground.Proofs.Script.Grammar.Names
import Playground.Proofs.Script.Grammar.Progress
import Playground.Proofs.Script.Grammar.Results
import Playground.Proofs.Script.Grammar.Rules
import Playground.Proofs.Script.Grammar.Statements
import Playground.Proofs.Script.Guarded
import Playground.Proofs.Script.Layout.Imports
import Playground.Proofs.Script.Layout.Module
import Playground.Proofs.Script.Layout.Openings
import Playground.Proofs.Script.Layout.Page
import Playground.Proofs.Script.Layout.Tree
import Playground.Proofs.Script.Lexer
import Playground.Proofs.Script.LoopGuard
import Playground.Proofs.Script.Outline
import Playground.Proofs.Script.Phrase
import Playground.Proofs.Script.Spelling
import Playground.Proofs.Script.Stage
import Playground.Proofs.Script.Template
import Playground.Proofs.Script.Token
import Playground.Proofs.Text.FrameLines
import Playground.Proofs.Text.Lines
import Playground.Proofs.Woven
import Playground.Record.Config
import Playground.Record.Decode
import Playground.Record.File
import Playground.Report
import Playground.Script.Comment
import Playground.Script.Fault
import Playground.Script.Grammar.Basic
import Playground.Script.Grammar.Class
import Playground.Script.Grammar.Expression
import Playground.Script.Grammar.Function
import Playground.Script.Grammar.Module
import Playground.Script.Grammar.Name
import Playground.Script.Grammar.Pattern
import Playground.Script.Grammar.Primary
import Playground.Script.Grammar.Statement
import Playground.Script.Items
import Playground.Script.Layout.Module
import Playground.Script.Layout.Page
import Playground.Script.Layout.Tree
import Playground.Script.Lexer
import Playground.Script.LoopGuard
import Playground.Script.Read
import Playground.Script.Stage
import Playground.Script.Token
import Playground.Script.Tree
import Playground.Text.Blank
import Playground.Text.Escape
import Playground.Text.Identifier
import Playground.Text.Lines
import Playground.Text.Position
import Playground.Text.Quoted
import Playground.Text.Range
import Playground.Text.Search
import Playground.Text.Shown
import Playground.Toml.Config
import Playground.Toml.Item
import Playground.Toml.Scalar
import Playground.Toml.Table
import Playground.Toml.Token
import Playground.Proofs.Imports.Split
import Playground.Proofs.CodeFrame.Window
import Playground.Proofs.Batch.Recompiled
import Playground.Proofs.Imports.LineParts
import Playground.Proofs.Imports.Pattern
import Playground.Proofs.Script.Items
import Playground.Proofs.Text.Scan
