import Rulebook.Text.Basic
import Rulebook.Text.Digit
import Rulebook.Text.Split
import Rulebook.Text.Escaped
import Rulebook.Text.Bytes
import Rulebook.Decimal.Division
import Rulebook.Decimal.Notation
import Rulebook.Date.Notation
import Rulebook.Measure.Basic
import Rulebook.Measure.Conversion
import Rulebook.Quantity
import Rulebook.Operator.Apply
import Rulebook.Missing
import Rulebook.Expr.Basic
import Rulebook.Expr.Evaluate
import Rulebook.Node
import Rulebook.Logged
import Rulebook.Operation.Shortcut
import Rulebook.Answer.Basic
import Rulebook.Answer.Options
import Rulebook.Questionnaire
import Rulebook.Proofs.Standing
import Rulebook.Proofs.Derivation
import Rulebook.Proofs.Openness
import Rulebook.Proofs.Parts
import Rulebook.Proofs.Accounting
import Rulebook.Proofs.Relevance
import Rulebook.Proofs.DepthLimit
import Rulebook.Proofs.Sides
import Rulebook.Proofs.Reports
import Rulebook.Proofs.Ranking
import Rulebook.Proofs.Nesting
import Rulebook.Proofs.Inlining
import Rulebook.Proofs.Belonging
import Rulebook.Proofs.Locality
import Rulebook.Proofs.Typing
import Rulebook.Proofs.TypeSoundness
import Rulebook.Proofs.Rounds
import Rulebook.Proofs.Weights
import Rulebook.Proofs.Answered
import Rulebook.Proofs.Amounts
import Rulebook.Proofs.Checked
import Rulebook.Proofs.Numerals
import Rulebook.Proofs.ReadBack
import Rulebook.Proofs.Connectives
import Rulebook.Proofs.UnitGrammar
import Rulebook.Proofs.WrittenUnits
import Rulebook.Proofs.ShownUnits
import Rulebook.Proofs.Dimensions
import Rulebook.Proofs.CalendarUnits
import Rulebook.Proofs.Laziness
import Rulebook.Proofs.Overruling
import Rulebook.Proofs.Magnitudes
import Rulebook.Proofs.Adjustments
import Rulebook.Proofs.Shares
import Rulebook.Proofs.Comparisons
import Rulebook.Proofs.WrittenDates
import Rulebook.Proofs.Fallback
import Rulebook.Proofs.Totals
import Rulebook.Proofs.ConvertedOrder
import Rulebook.Proofs.TextOrder
import Rulebook.Proofs.DeclaredOptions
import Rulebook.Proofs.UnitGroup
import Rulebook.Proofs.Merging
