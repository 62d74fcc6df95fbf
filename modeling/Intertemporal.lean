import Intertemporal.Calibration
import Intertemporal.Date
import Intertemporal.Datum
import Intertemporal.Datum.Key
import Intertemporal.Decimal.Binary64
import Intertemporal.Decimal.Digits
import Intertemporal.Decimal.Layout
import Intertemporal.Decimal.Reading
import Intertemporal.Equation
import Intertemporal.Error
import Intertemporal.Event
import Intertemporal.Expression.Basic
import Intertemporal.Expression.Reading
import Intertemporal.Expression.References
import Intertemporal.Expression.Symbols
import Intertemporal.Horizon
import Intertemporal.Memory
import Intertemporal.Model.Basic
import Intertemporal.Model.Blueprint
import Intertemporal.Model.Session
import Intertemporal.Model.Trajectory
import Intertemporal.Moment
import Intertemporal.Operators.LagPolynomial
import Intertemporal.Operators.Normalize
import Intertemporal.Operators.Operator
import Intertemporal.Operators.TimeIndex
import Intertemporal.Options.Basic
import Intertemporal.Options.File
import Intertemporal.Program.Basic
import Intertemporal.Program.Denotation
import Intertemporal.Program.Evaluator
import Intertemporal.Program.Gradient
import Intertemporal.Program.Jet
import Intertemporal.Program.Registry
import Intertemporal.Scalar
import Intertemporal.Source.Parser
import Intertemporal.Source.Printer
import Intertemporal.Source.Statement
import Intertemporal.Source.Term
import Intertemporal.Source.Token
import Intertemporal.SteadyState
import Intertemporal.Symbols
import Intertemporal.System.Basic
import Intertemporal.System.EquationForm
import Intertemporal.System.Linearization
import Intertemporal.System.ModelForm
import Intertemporal.System.Sparse
import Intertemporal.System.StateSpace
import Intertemporal.Table
import Intertemporal.Text.Character
import Intertemporal.Text.Compositions
import Intertemporal.Text.NormalForm
import Intertemporal.Text.Quoted
import Intertemporal.Text.Ranges
import Intertemporal.Yaml.Cursor
import Intertemporal.Yaml.Meaning
import Intertemporal.Yaml.Node
import Intertemporal.Yaml.Scalar
import Intertemporal.Yaml.Tag
import Intertemporal.Yaml.Timestamp
import Intertemporal.Yaml.Token
import Intertemporal.Proofs.Exact
import Intertemporal.Proofs.Outcome
import Intertemporal.Proofs.Program.Morphisms
import Intertemporal.Proofs.Expression.Induction
import Intertemporal.Proofs.Program.Slots
import Intertemporal.Proofs.Program.Passes
import Intertemporal.Proofs.Program.Tangent
import Intertemporal.Proofs.Program.Derivative
import Intertemporal.Proofs.Program.Evaluators
import Intertemporal.Proofs.Program.PartialDerivatives
import Intertemporal.Proofs.System.Scatter
import Intertemporal.Proofs.System.Assembly
import Intertemporal.Proofs.Invariant
import Intertemporal.Proofs.Symbols
import Intertemporal.Proofs.Expression.References
import Intertemporal.Proofs.System.SparseMatrix
import Intertemporal.Proofs.Program.Soundness
import Intertemporal.Proofs.Lists
import Intertemporal.Proofs.System.Soundness
import Intertemporal.Proofs.Model.Runs
import Intertemporal.Proofs.Model.Stability
import Intertemporal.Proofs.Model.Soundness
import Intertemporal.Proofs.System.Jacobian
import Intertemporal.Proofs.Model.Jacobian
import Intertemporal.Proofs.System.Coefficients
import Intertemporal.Proofs.System.States
import Intertemporal.Proofs.System.FirstOrder
import Intertemporal.Proofs.Model.FirstOrder
import Intertemporal.Proofs.System.Links
import Intertemporal.Proofs.Model.Links
import Intertemporal.Proofs.Source.Meaning
import Intertemporal.Proofs.LagPolynomial
import Intertemporal.Proofs.Source.Paths
import Intertemporal.Proofs.Source.Regular
import Intertemporal.Proofs.Source.Shifts
import Intertemporal.Proofs.Source.Spelling
import Intertemporal.Proofs.Source.Windows
import Intertemporal.Proofs.Source.Ratios
import Intertemporal.Proofs.Source.Differences
import Intertemporal.Proofs.Source.Expansion
import Intertemporal.Proofs.Source.CurrentDate
import Intertemporal.Proofs.Expression.Reading
import Intertemporal.Proofs.Program.Values
import Intertemporal.Proofs.Program.Chunks
import Intertemporal.Proofs.Program.Sharing
import Intertemporal.Proofs.Program.Readings
import Intertemporal.Proofs.Program.Bindings
import Intertemporal.Proofs.Program.Revisions
import Intertemporal.Proofs.System.Stability
import Intertemporal.Proofs.Model.Founders
import Intertemporal.Proofs.System.Residuals
import Intertemporal.Proofs.Agreement
import Intertemporal.Proofs.System.Evaluations
import Intertemporal.Proofs.System.Linearization
import Intertemporal.Proofs.Model.Serving
import Intertemporal.Proofs.Model.Renewal
import Intertemporal.Proofs.Model.Attained
import Intertemporal.Proofs.Model.Residuals
import Intertemporal.Proofs.Model.Evaluations
import Intertemporal.Proofs.Model.Linearization
import Intertemporal.Proofs.Triple
import Intertemporal.Proofs.System.Records
import Intertemporal.Proofs.System.Twins
import Intertemporal.Proofs.Model.Records
import Intertemporal.Proofs.Model.Interference
import Intertemporal.Proofs.Failures
import Intertemporal.Proofs.Tables
import Intertemporal.Proofs.Horizon
import Intertemporal.Proofs.Expression.Occurrences
import Intertemporal.Proofs.Expression.Comparison
import Intertemporal.Proofs.Model.Histories
import Intertemporal.Proofs.Model.Steps
import Intertemporal.Proofs.Model.Coherence
import Intertemporal.Proofs.System.Balance
import Intertemporal.Proofs.Model.Squareness
import Intertemporal.Proofs.Model.Entries
import Intertemporal.Proofs.Matching
import Intertemporal.Proofs.System.Bare
import Intertemporal.Proofs.System.Rebuilding
import Intertemporal.Proofs.Model.Successes
import Intertemporal.Proofs.Model.Contents
import Intertemporal.Proofs.Model.Restatement
import Intertemporal.Proofs.Model.Determination
import Intertemporal.Proofs.Model.ActiveForm
import Intertemporal.Proofs.Model.Assignments
import Intertemporal.Proofs.Source.RatioFailures
import Intertemporal.Proofs.Expression.Refusals
import Intertemporal.Proofs.System.Renumbering
import Intertemporal.Proofs.System.Resemblance
import Intertemporal.Proofs.System.Following
import Intertemporal.Proofs.Model.Accounts
import Intertemporal.Proofs.Model.Following
import Intertemporal.Proofs.Model.Resemblance
import Intertemporal.Proofs.Model.StructuralFailures
import Intertemporal.Proofs.Program.Affine
import Intertemporal.Proofs.System.Expansions
import Intertemporal.Proofs.System.Settled
import Intertemporal.Proofs.Model.Slices
import Intertemporal.Proofs.Model.Trajectory
import Intertemporal.Proofs.Source.Identifiers
import Intertemporal.Proofs.Source.Retention
import Intertemporal.Proofs.Expression.Declarations
import Intertemporal.Proofs.Source.Numerals
import Intertemporal.Proofs.Source.Decimals
import Intertemporal.Proofs.Source.Lexing
import Intertemporal.Proofs.Source.Parsing
import Intertemporal.Proofs.Source.Operands
import Intertemporal.Proofs.Expression.Printing
import Intertemporal.Proofs.Program.Listings
import Intertemporal.Proofs.PartialReal
import Intertemporal.Proofs.Program.Constants
import Intertemporal.Proofs.Expression.Places
import Intertemporal.Proofs.Model.Wordings
import Intertemporal.Proofs.Expression.Lags
import Intertemporal.Proofs.Source.Values
import Intertemporal.Proofs.Source.WrittenRatios
import Intertemporal.Proofs.Source.Congruence
import Intertemporal.Proofs.Source.NormalForm
import Intertemporal.Proofs.Source.Redating
import Intertemporal.Proofs.Expression.Weakening
import Intertemporal.Proofs.Program.Bookkeeping
import Intertemporal.Proofs.Source.Trailing
import Intertemporal.Proofs.Source.Comments
import Intertemporal.Proofs.Model.Reach
import Intertemporal.Proofs.Model.Naming
import Intertemporal.Proofs.Program.Locality
import Intertemporal.Proofs.Source.Composition
import Intertemporal.Proofs.Source.Combinations
