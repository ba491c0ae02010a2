import QuantityCalculator.Number.Double
import QuantityCalculator.Number.Decimal
import QuantityCalculator.Number.Numeral
import QuantityCalculator.Number.Rounding
import QuantityCalculator.Text.Ranges
import QuantityCalculator.Text.Run
import QuantityCalculator.Text.Munch
import QuantityCalculator.Text.Blank
import QuantityCalculator.Text.Letter
import QuantityCalculator.Text.Word
import QuantityCalculator.Text.Quoted
import QuantityCalculator.Dimension.Basic
import QuantityCalculator.Dimension.Named
import QuantityCalculator.Dimension.Display
import QuantityCalculator.Dimension.Compound
import QuantityCalculator.Quantity
import QuantityCalculator.Line.Token
import QuantityCalculator.Line.Lexeme
import QuantityCalculator.Line.Cursor
import QuantityCalculator.Line.Phrase
import QuantityCalculator.Outcome
import QuantityCalculator.Error
import QuantityCalculator.Line.Parser
import QuantityCalculator.Typesetting
import QuantityCalculator.Bindings
import QuantityCalculator.Evaluation.Function
import QuantityCalculator.Evaluation.Environment
import QuantityCalculator.Evaluation.Evaluate
import QuantityCalculator.Ledger
import QuantityCalculator.Storage
import QuantityCalculator.Session
import QuantityCalculator.Dialogue
import QuantityCalculator.Main
import QuantityCalculator.Proofs.Grammar.Unambiguous
import QuantityCalculator.Proofs.Reading.Settles
import QuantityCalculator.Proofs.Reading.Complete
import QuantityCalculator.Proofs.Reading.Consumes
import QuantityCalculator.Proofs.Reading.Sound
import QuantityCalculator.Proofs.Reading.Statement
import QuantityCalculator.Proofs.Reading.Accepts
import QuantityCalculator.Proofs.Reading.Shape
import QuantityCalculator.Proofs.Reading.Paths
import QuantityCalculator.Proofs.Reading.LongPaths
import QuantityCalculator.Proofs.Evaluation.Ends
import QuantityCalculator.Proofs.Evaluation.Computes
import QuantityCalculator.Proofs.Evaluation.Effect
import QuantityCalculator.Proofs.Session.Atomic
import QuantityCalculator.Proofs.Session.Processed
import QuantityCalculator.Proofs.Evaluation.Alike
import QuantityCalculator.Proofs.Evaluation.TwoRuns
import QuantityCalculator.Proofs.Scanning.Longest
import QuantityCalculator.Proofs.Scanning.Tiling
import QuantityCalculator.Proofs.Number.Bits
import QuantityCalculator.Proofs.Number.Neutral
import QuantityCalculator.Proofs.Number.Nearest
import QuantityCalculator.Proofs.Number.Written
import QuantityCalculator.Proofs.Dimension.Cuts
import QuantityCalculator.Proofs.Dimension.ReadBack
import QuantityCalculator.Proofs.Scanning.Units
import QuantityCalculator.Proofs.Session.Quantities
import QuantityCalculator.Proofs.Reading.Uncharged
import QuantityCalculator.Proofs.Evaluation.Scopes
import QuantityCalculator.Proofs.Typesetting.Rows
import QuantityCalculator.Proofs.Typesetting.Readable
import QuantityCalculator.Proofs.Typesetting.Inert
import QuantityCalculator.Proofs.Session.Document
import QuantityCalculator.Proofs.Session.Dialogue
import QuantityCalculator.Proofs.Dimension.Segments
import QuantityCalculator.Proofs.Scanning.Suffix
import QuantityCalculator.Proofs.Reading.UnitErrors
import QuantityCalculator.Proofs.Evaluation.Changes
import QuantityCalculator.Proofs.Evaluation.Lookups
import QuantityCalculator.Proofs.Session.Commuting
import QuantityCalculator.Proofs.Evaluation.Dimensionless
import QuantityCalculator.Proofs.Reading.Composes
import QuantityCalculator.Proofs.Reading.Balance
import QuantityCalculator.Proofs.Scanning.Marks
import QuantityCalculator.Proofs.Evaluation.Depth
import QuantityCalculator.Proofs.Evaluation.Visible
import QuantityCalculator.Proofs.Evaluation.CallGraph
import QuantityCalculator.Proofs.Reading.RenderPath
import QuantityCalculator.Proofs.Reading.EndPlace
import QuantityCalculator.Proofs.Dimension.Mentions
import QuantityCalculator.Proofs.Dimension.Identified
import QuantityCalculator.Proofs.Number.Rounded
import QuantityCalculator.Proofs.Number.Hundredths
