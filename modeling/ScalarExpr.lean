import ScalarExpr.Expr.Same
import ScalarExpr.Function.Call
import ScalarExpr.Json.Parse
import ScalarExpr.Json.Read
import ScalarExpr.Json.Write
import ScalarExpr.Planning.Decorrelate
import ScalarExpr.Planning.Edit
import ScalarExpr.Planning.Resolve
import ScalarExpr.Proofs.Evaluation.Agreement
import ScalarExpr.Proofs.Evaluation.Numeric
import ScalarExpr.Proofs.Planning.Hidden
import ScalarExpr.Proofs.Expr.ArgumentOrder
import ScalarExpr.Proofs.Planning.Workspace
import ScalarExpr.Proofs.Evaluation.MixedSigns
import ScalarExpr.Proofs.Evaluation.Columnwise
import ScalarExpr.Proofs.Evaluation.Interchange
import ScalarExpr.Proofs.Evaluation.Integral
import ScalarExpr.Proofs.Expr.Equality
import ScalarExpr.Proofs.Planning.Decorrelation
import ScalarExpr.Proofs.Planning.Layout
import ScalarExpr.Proofs.Planning.Binding
import ScalarExpr.Proofs.Evaluation.Congruence
import ScalarExpr.Proofs.Planning.Commutation
import ScalarExpr.Proofs.Evaluation.Constant
import ScalarExpr.Proofs.Evaluation.Literal
import ScalarExpr.Proofs.Evaluation.IntegerColumns
import ScalarExpr.Proofs.Planning.Resolution
import ScalarExpr.Proofs.Planning.NormalForm
import ScalarExpr.Proofs.Evaluation.Coherence
import ScalarExpr.Proofs.Evaluation.Concatenation
import ScalarExpr.Proofs.Evaluation.Bounds
import ScalarExpr.Proofs.Column.Reading
import ScalarExpr.Proofs.Column.Rows
import ScalarExpr.Proofs.Column.Timestamps
import ScalarExpr.Proofs.Value.Decimals
import ScalarExpr.Proofs.Expr.Instants
import ScalarExpr.Proofs.Value.Sequences
import ScalarExpr.Proofs.Varint.Decoding
import ScalarExpr.Proofs.Function.Registry
import ScalarExpr.Proofs.Evaluation.Sessions
