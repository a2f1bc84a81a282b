import Assessment.Json.Printer
import Assessment.Json.Reader
import Assessment.Table
import Assessment.Value.Basic
import Assessment.Text.Blank
import Assessment.Text.Numeral
import Assessment.Decimal.Scaled
import Assessment.Numeric.Function
import Assessment.Numeric.Integer
import Assessment.Numeric.Statistic
import Assessment.Numeric.Tolerance
import Assessment.Random
import Assessment.Shape
import Assessment.Text.Lowercase
import Assessment.Attribute
import Assessment.Diagnostic
import Assessment.Lookup
import Assessment.Mapping
import Assessment.Operator
import Assessment.Session.Aggregate
import Assessment.Pattern.Match
import Assessment.Interchange.Document
import Assessment.Main
import Assessment.Proofs.Result
import Assessment.Proofs.Variable.View
import Assessment.Proofs.Program.Frame
import Assessment.Proofs.Program.ReadOnly
import Assessment.Proofs.Expr.Trail
import Assessment.Proofs.Program.Template
import Assessment.Proofs.Variable.Fits
import Assessment.Proofs.Variable.WellTyped
import Assessment.Proofs.Interchange.Declaration
import Assessment.Proofs.Program.Reachable
import Assessment.Proofs.Expr.NullOperand
import Assessment.Proofs.Document.Answers
import Assessment.Proofs.Value.RoundTrip
import Assessment.Proofs.Program.Finite
import Assessment.Proofs.Interchange.Finite
import Assessment.Proofs.Variable.Agreement
import Assessment.Proofs.Expr.Mention
import Assessment.Proofs.Program.Mention
import Assessment.Proofs.Document.Reprocessing
import Assessment.Proofs.Program.Nesting
import Assessment.Proofs.Session.Correctness
import Assessment.Proofs.Numeric.Equality
import Assessment.Proofs.Value.Equality
import Assessment.Proofs.Expr.ThreeValued
import Assessment.Proofs.Numeric.Reordering
import Assessment.Proofs.Expr.Reordering
import Assessment.Proofs.Program.Setting
import Assessment.Proofs.Expr.Membership
import Assessment.Proofs.Expr.Construction
import Assessment.Proofs.Program.Completion
import Assessment.Proofs.Numeric.Order
import Assessment.Proofs.Lookup.Band
import Assessment.Proofs.Numeric.Division
import Assessment.Proofs.Numeric.Divisor
import Assessment.Proofs.Numeric.Nearest
import Assessment.Proofs.Numeric.Monotone
import Assessment.Proofs.Expr.Comparison
import Assessment.Proofs.Expr.Extreme
import Assessment.Proofs.Session.Counting
import Assessment.Proofs.Session.Collection
import Assessment.Proofs.Mapping.Distinct
import Assessment.Proofs.Mapping.Scale
import Assessment.Proofs.Mapping.Scoring
import Assessment.Proofs.Expr.Draw
import Assessment.Proofs.Expr.RoundedEquality
import Assessment.Proofs.Numeric.Exact
import Assessment.Proofs.Numeric.Rounded
import Assessment.Proofs.Numeric.Scaling
import Assessment.Proofs.Numeric.RoundTo
import Assessment.Proofs.Numeric.Arithmetic
import Assessment.Proofs.Numeric.HalfUp
import Assessment.Proofs.Numeric.Reading
import Assessment.Proofs.Numeric.Shortest
import Assessment.Proofs.Numeric.Figures
import Assessment.Proofs.Numeric.Window
import Assessment.Proofs.Shape.Polygon
import Assessment.Proofs.Partial.Evaluation
import Assessment.Proofs.Pattern.Span
import Assessment.Proofs.Pattern.Anchor
import Assessment.Proofs.Expr.PatternMatch
import Assessment.Proofs.Variable.Conformance
import Assessment.Proofs.Numeric.Overflow
import Assessment.Proofs.Numeric.Power
