import PolySurvey.Main
import PolySurvey.Proofs.Document.Alone
import PolySurvey.Proofs.Document.Lossless
import PolySurvey.Proofs.Document.Reading
import PolySurvey.Proofs.Document.Remark
import PolySurvey.Proofs.Document.Written
import PolySurvey.Proofs.Number.Arithmetic
import PolySurvey.Proofs.Number.Middle
import PolySurvey.Proofs.Number.Nearest
import PolySurvey.Proofs.Number.Order
import PolySurvey.Proofs.Number.Place
import PolySurvey.Proofs.Number.Product
import PolySurvey.Proofs.Number.Rounding
import PolySurvey.Proofs.Polynomial.RoundTrip
import PolySurvey.Proofs.Scan.Detection
import PolySurvey.Proofs.Scan.Enclosure
import PolySurvey.Proofs.Scan.Neighbours
import PolySurvey.Proofs.Scan.Termination
import PolySurvey.Proofs.Settings.Accepted
import PolySurvey.Proofs.Settings.Order
import PolySurvey.Proofs.Settings.Overwriting
import PolySurvey.Proofs.Survey.Transparency
import PolySurvey.Proofs.Term.Concatenation
import PolySurvey.Proofs.Term.Coverage
import PolySurvey.Proofs.Term.Expression
import PolySurvey.Proofs.Term.Merging
import PolySurvey.Proofs.Scan.Splitting
import PolySurvey.Proofs.Scan.Sweep
import PolySurvey.Proofs.CommandLine.Order
import PolySurvey.Proofs.Number.Range
import PolySurvey.Proofs.Scan.Bisection
import PolySurvey.Proofs.Term.Pattern
import PolySurvey.Proofs.Term.Search
import PolySurvey.Proofs.Number.Whole
import PolySurvey.Proofs.Polynomial.Derivatives
import PolySurvey.Proofs.Polynomial.Horner
import PolySurvey.Proofs.Scan.Reported
import PolySurvey.Proofs.Term.Fault
import PolySurvey.Proofs.Number.Zero
import PolySurvey.Proofs.Term.Dense
import PolySurvey.Proofs.Polynomial.Padding
import PolySurvey.Proofs.Polynomial.Constant
import PolySurvey.Proofs.Polynomial.DivisionByZero
import PolySurvey.Proofs.Number.Neutral
import PolySurvey.Proofs.Scan.Runs
import PolySurvey.Proofs.Scan.Projection
import PolySurvey.Proofs.Scan.Flat
