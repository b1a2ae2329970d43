import CrateUsage.Analysis
import CrateUsage.Attribute
import CrateUsage.CommandLine
import CrateUsage.CommandLine.Arguments
import CrateUsage.Console.Emoji
import CrateUsage.Console.Markup
import CrateUsage.Console.Pictures
import CrateUsage.Console.Style
import CrateUsage.Console.Table
import CrateUsage.Console.Wrap
import CrateUsage.Discovery
import CrateUsage.FilePath
import CrateUsage.Json.Value
import CrateUsage.Log
import CrateUsage.Main
import CrateUsage.Outline
import CrateUsage.Proofs.AttributeVisits
import CrateUsage.Proofs.Attributes
import CrateUsage.Proofs.BareGroups
import CrateUsage.Proofs.BareUse
import CrateUsage.Proofs.Batches
import CrateUsage.Proofs.Comments
import CrateUsage.Proofs.Decorations
import CrateUsage.Proofs.Displays
import CrateUsage.Proofs.Exchange
import CrateUsage.Proofs.ExchangedOutlines
import CrateUsage.Proofs.FirstCharacter
import CrateUsage.Proofs.FirstFault
import CrateUsage.Proofs.FlatOutlines
import CrateUsage.Proofs.FunctionHints
import CrateUsage.Proofs.FunctionOrder
import CrateUsage.Proofs.Gaps
import CrateUsage.Proofs.Hangings
import CrateUsage.Proofs.JsonReading
import CrateUsage.Proofs.JsonReports
import CrateUsage.Proofs.Ledger
import CrateUsage.Proofs.Lexical
import CrateUsage.Proofs.LexicalReading
import CrateUsage.Proofs.Lines
import CrateUsage.Proofs.LiteralText
import CrateUsage.Proofs.LocalNames
import CrateUsage.Proofs.LongerFiles
import CrateUsage.Proofs.Meaning
import CrateUsage.Proofs.Mentions
import CrateUsage.Proofs.MovedCrates
import CrateUsage.Proofs.NestedPaths
import CrateUsage.Proofs.ParsedText
import CrateUsage.Proofs.PathKeywords
import CrateUsage.Proofs.PathTexts
import CrateUsage.Proofs.PathVisits
import CrateUsage.Proofs.Reachable
import CrateUsage.Proofs.ReadTexts
import CrateUsage.Proofs.RecordHistory
import CrateUsage.Proofs.Renames
import CrateUsage.Proofs.RepeatedVisits
import CrateUsage.Proofs.ReportDocuments
import CrateUsage.Proofs.Rows
import CrateUsage.Proofs.ScopeBlocks
import CrateUsage.Proofs.ScopeHistory
import CrateUsage.Proofs.Shadowing
import CrateUsage.Proofs.Sightings
import CrateUsage.Proofs.SourceOrder
import CrateUsage.Proofs.Surface
import CrateUsage.Proofs.TestBodies
import CrateUsage.Proofs.TestIsolation
import CrateUsage.Proofs.TestMarks
import CrateUsage.Proofs.TokenTrees
import CrateUsage.Proofs.Tree
import CrateUsage.Proofs.Unwinding
import CrateUsage.Proofs.Usages
import CrateUsage.Proofs.UseGroups
import CrateUsage.Proofs.UseReading
import CrateUsage.Proofs.UseTree
import CrateUsage.Proofs.Visits
import CrateUsage.Proofs.WideConsole
import CrateUsage.Reference
import CrateUsage.Report
import CrateUsage.Rust.Grammar.Attribute
import CrateUsage.Rust.Grammar.Expression
import CrateUsage.Rust.Grammar.Item
import CrateUsage.Rust.Grammar.Pattern
import CrateUsage.Rust.Grammar.Route
import CrateUsage.Rust.Grammar.TokenTree
import CrateUsage.Rust.Grammar.Type
import CrateUsage.Rust.Lexeme
import CrateUsage.Rust.Parse
import CrateUsage.Rust.Piece
import CrateUsage.Rust.Rule
import CrateUsage.Rust.Token
import CrateUsage.Scope
import CrateUsage.Script
import CrateUsage.Store
import CrateUsage.Store.Folder
import CrateUsage.Survey
import CrateUsage.Text.Cells
import CrateUsage.Text.IdentifierChar
import CrateUsage.Text.Lowercase
import CrateUsage.Text.Printable
import CrateUsage.Text.Quoted
import CrateUsage.Text.Ranges
import CrateUsage.Text.Sorted
import CrateUsage.Text.Utf8
import CrateUsage.Tree
import CrateUsage.Tree.Kind
import CrateUsage.Tree.Site
import CrateUsage.Usage
