import TinyLisp.Text.Blank
import TinyLisp.Text.Digit
import TinyLisp.Text.Printable
import TinyLisp.Fault
import TinyLisp.Text.Surrogate
import TinyLisp.Text.Quote
import TinyLisp.Number.Binary64
import TinyLisp.Number.FloatText
import TinyLisp.Number.Decimal
import TinyLisp.Syntax.Datum
import TinyLisp.Syntax.Value
import TinyLisp.Syntax.Printer
import TinyLisp.Text.Basic
import TinyLisp.Syntax.Split
import TinyLisp.Syntax.Reader
import TinyLisp.Eval.Store
import TinyLisp.Eval.Eval
import TinyLisp.Eval.Prelude
import TinyLisp.Session
import TinyLisp.Repl
import TinyLisp.Bench
import TinyLisp.Main
import TinyLisp.Proofs.Scan
import TinyLisp.Proofs.ReadRules
import TinyLisp.Proofs.SourceText
import TinyLisp.Proofs.PrintRead
import TinyLisp.Proofs.ScanCompare
import TinyLisp.Proofs.Cutting
import TinyLisp.Proofs.Reprint
import TinyLisp.Proofs.Comments
import TinyLisp.Proofs.StoreGrowth
import TinyLisp.Proofs.Confinement
import TinyLisp.Proofs.Scoping
import TinyLisp.Proofs.Application
import TinyLisp.Proofs.Renaming
import TinyLisp.Proofs.Matching
import TinyLisp.Proofs.LetLambda
import TinyLisp.Proofs.PlainRuns
import TinyLisp.Proofs.Failures
import TinyLisp.Proofs.Arithmetic
import TinyLisp.Proofs.FuelMonotone
import TinyLisp.Proofs.CondChain
import TinyLisp.Proofs.ReadByFuel
import TinyLisp.Proofs.ValueEquality
import TinyLisp.Proofs.BigStep
import TinyLisp.Proofs.PreludeLoad
import TinyLisp.Proofs.ListFunctions
import TinyLisp.Proofs.Sorting
import TinyLisp.Proofs.Splitting
import TinyLisp.Proofs.LineReader
import TinyLisp.Proofs.Booleans
import TinyLisp.Proofs.IntegerPrograms
import TinyLisp.Proofs.Termination
import TinyLisp.Proofs.Serials
