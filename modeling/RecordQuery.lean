import RecordQuery.Number.Binary64
import RecordQuery.Number.Shortest
import RecordQuery.Number.Layout
import RecordQuery.Json.Value
import RecordQuery.Json.Writer
import RecordQuery.Json.Reader
import RecordQuery.Json.Schema
import RecordQuery.Log.Severity
import RecordQuery.Log.Line
import RecordQuery.Text.Blank
import RecordQuery.Text.Utf16
import RecordQuery.Text.CodeSet
import RecordQuery.Text.CaseFold
import RecordQuery.Text.Category
import RecordQuery.Text.Script
import RecordQuery.Text.WordChar
import RecordQuery.Text.Property
import RecordQuery.Text.PropertyName
import RecordQuery.Text.ScriptExtension
import RecordQuery.Text.Age
import RecordQuery.Text.Boundary
import RecordQuery.Text.Utf8Sequence
import RecordQuery.Text.Printable
import RecordQuery.Text.Alphanumeric
import RecordQuery.Loose.Numeric
import RecordQuery.Loose.Display
import RecordQuery.Loose.Compare
import RecordQuery.Pattern.Error
import RecordQuery.Pattern.Syntax
import RecordQuery.Pattern.Normal
import RecordQuery.Pattern.Class
import RecordQuery.Pattern.Escape
import RecordQuery.Pattern.Parser
import RecordQuery.Pattern.Footprint
import RecordQuery.Pattern.Program
import RecordQuery.Pattern.Regex
import RecordQuery.Query.Syntax
import RecordQuery.Query.Error
import RecordQuery.Query.Config
import RecordQuery.Query.Literal
import RecordQuery.Query.Decode
import RecordQuery.Plan.Predicate
import RecordQuery.Plan.Leaf
import RecordQuery.Plan.Compile
import RecordQuery.Plan.Explain
import RecordQuery.Exec.Path
import RecordQuery.Exec.Filter
import RecordQuery.Exec.Project
import RecordQuery.Exec.Sort
import RecordQuery.Exec.Run
import RecordQuery.Cli.Similarity
import RecordQuery.Cli.Spec
import RecordQuery.Cli.Args
import RecordQuery.Cli.Files
import RecordQuery.Cli.Run
import RecordQuery.Main
import RecordQuery.Proofs.CompileTree
import RecordQuery.Proofs.CompileMeaning
import RecordQuery.Proofs.MergeSort
import RecordQuery.Proofs.RowOrder
import RecordQuery.Proofs.LeafNegation
import RecordQuery.Proofs.PlanShape
import RecordQuery.Proofs.StatementCodec
import RecordQuery.Proofs.RowProjection
import RecordQuery.Proofs.LooseAgreement
import RecordQuery.Proofs.StringLiteral
import RecordQuery.Proofs.ScalarOperands
import RecordQuery.Proofs.ExactIntegers
import RecordQuery.Proofs.RadixLiteral
import RecordQuery.Proofs.NumericCoercion
import RecordQuery.Proofs.Utf8Order
import RecordQuery.Proofs.LogLine
