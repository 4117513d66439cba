import PegTemplate.Alternation
import PegTemplate.Main
import PegTemplate.Options
import PegTemplate.Proofs.Match.Bounds
import PegTemplate.Proofs.Match.Trace
import PegTemplate.Stock
import PegTemplate.Template.Assembly
import PegTemplate.Proofs.Match.Semantics
import PegTemplate.Proofs.Match.Realization
import PegTemplate.Proofs.Grammar.Closed
import PegTemplate.Proofs.Match.Conformance
import PegTemplate.Proofs.Match.Transparency
import PegTemplate.Proofs.Parser.Cache
import PegTemplate.Proofs.Parser.Report
import PegTemplate.Proofs.Match.Halting
import PegTemplate.Proofs.Grammar.Code
import PegTemplate.Proofs.Grammar.RoundTrip
import PegTemplate.Proofs.Template.Called
import PegTemplate.Proofs.Parser.Safe
import PegTemplate.Proofs.Match.Session
import PegTemplate.Proofs.Grammar.Order
import PegTemplate.Proofs.Parser.Journal
import PegTemplate.Proofs.Match.Lossless
import PegTemplate.Proofs.Cursor.Code
import PegTemplate.Proofs.Cursor.Expression
import PegTemplate.Proofs.Cursor.Total
import PegTemplate.Proofs.Grammar.Alike
import PegTemplate.Proofs.Block.Kept
import PegTemplate.Proofs.Match.Once
import PegTemplate.Proofs.Parser.Forwarding
import PegTemplate.Proofs.Template.Numbered
import PegTemplate.Proofs.Match.Shift
import PegTemplate.Proofs.Match.Farthest
import PegTemplate.Proofs.Match.Discipline
import PegTemplate.Proofs.Match.IgnoreCase
import PegTemplate.Proofs.Grammar.Escapes
import PegTemplate.Proofs.Template.Valid
import PegTemplate.Proofs.Template.Assembled
import PegTemplate.Proofs.Template.Culprit
import PegTemplate.Proofs.Alternation.Columns
import PegTemplate.Proofs.Alternation.Turns
import PegTemplate.Proofs.Alternation.Interleaved
import PegTemplate.Proofs.Options.Isolated
import PegTemplate.Proofs.Command.Spelled
import PegTemplate.Proofs.Command.Agreement
import PegTemplate.Proofs.Match.Positions
import PegTemplate.Proofs.Block.Normal
