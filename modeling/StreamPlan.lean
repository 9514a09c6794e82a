import StreamPlan.Codec.Config
import StreamPlan.Codec.Expr
import StreamPlan.Codec.Join
import StreamPlan.Codec.KeyField
import StreamPlan.Codec.Value
import StreamPlan.Function.Builtin
import StreamPlan.Json.Printer
import StreamPlan.Json.Reader
import StreamPlan.Plan.Build
import StreamPlan.Plan.Explain
import StreamPlan.Proofs.Aggregation.ArrivalOrder
import StreamPlan.Proofs.Aggregation.ExactSums
import StreamPlan.Proofs.Cast.Agreement
import StreamPlan.Proofs.Config.Overlay
import StreamPlan.Proofs.Expr.ExchangedSides
import StreamPlan.Proofs.Expr.FunctionCase
import StreamPlan.Proofs.Expr.IntegerArithmetic
import StreamPlan.Proofs.Expr.KeyNames
import StreamPlan.Proofs.Expr.LogicLaws
import StreamPlan.Proofs.Expr.NamedColumns
import StreamPlan.Proofs.Expr.NoFailure
import StreamPlan.Proofs.Expr.Promotion
import StreamPlan.Proofs.Expr.TypeSoundness
import StreamPlan.Proofs.Function.Rounding
import StreamPlan.Proofs.Function.Substring
import StreamPlan.Proofs.Json.PlanInputs
import StreamPlan.Proofs.Plan.DistinctNames
import StreamPlan.Proofs.Plan.DumpedTree
import StreamPlan.Proofs.Plan.FailedCalls
import StreamPlan.Proofs.Plan.FilterFusion
import StreamPlan.Proofs.Plan.KeyReuse
import StreamPlan.Proofs.Plan.KeyRoundTrip
import StreamPlan.Proofs.Plan.MissingColumns
import StreamPlan.Proofs.Plan.RepeatedRekey
import StreamPlan.Proofs.Plan.RoutesAgree
import StreamPlan.Proofs.Plan.RowsAligned
import StreamPlan.Proofs.Plan.Sinks
import StreamPlan.Proofs.Plan.Tombstones
import StreamPlan.Proofs.Plan.WellFormed
import StreamPlan.Proofs.RowFunction.CompositeKey
import StreamPlan.Proofs.RowFunction.GroupEquality
import StreamPlan.Proofs.RowFunction.WindowColumns
import StreamPlan.Proofs.Schema.ColumnOrder
import StreamPlan.Proofs.TimeOfDay.Grammar
