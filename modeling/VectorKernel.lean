import VectorKernel.Catalog.Basic
import VectorKernel.Catalog.Extend
import VectorKernel.Catalog.Neon
import VectorKernel.Catalog.Path
import VectorKernel.Catalog.Standard
import VectorKernel.Catalog.X86
import VectorKernel.Command.Arguments
import VectorKernel.Command.Run
import VectorKernel.Command.Saxpy
import VectorKernel.Context
import VectorKernel.Decimal.Binary64
import VectorKernel.Decimal.Layout
import VectorKernel.Decimal.Shortest
import VectorKernel.Digest.Blake3
import VectorKernel.Expr.Basic
import VectorKernel.Expr.Evaluate
import VectorKernel.Expr.Literal
import VectorKernel.Fault
import VectorKernel.Files.Disk
import VectorKernel.Files.Fault
import VectorKernel.Files.Path
import VectorKernel.Files.Tree
import VectorKernel.Intrinsic
import VectorKernel.Json.Basic
import VectorKernel.Json.Numeric
import VectorKernel.Json.Pretty
import VectorKernel.Json.Quoted
import VectorKernel.Json.Reader
import VectorKernel.Json.Record
import VectorKernel.Kernel.Basic
import VectorKernel.Kernel.Manifest
import VectorKernel.Kernel.Report
import VectorKernel.Kernel.Run
import VectorKernel.Kernel.Write
import VectorKernel.Lowering.Arithmetic
import VectorKernel.Lowering.Construct
import VectorKernel.Lowering.Convert
import VectorKernel.Lowering.Fused
import VectorKernel.Lowering.Masked
import VectorKernel.Lowering.Memory
import VectorKernel.Main
import VectorKernel.Operand
import VectorKernel.Operator
import VectorKernel.Printer
import VectorKernel.Procedure
import VectorKernel.Proofs.Arithmetic
import VectorKernel.Proofs.Conversion
import VectorKernel.Proofs.Extension
import VectorKernel.Proofs.Lanes.Lowering
import VectorKernel.Proofs.Lanes.Term
import VectorKernel.Proofs.Lanes.Tree
import VectorKernel.Proofs.Occurrence
import VectorKernel.Proofs.Reachability
import VectorKernel.Proofs.Reading.Grammar
import VectorKernel.Proofs.Reading.Meaning
import VectorKernel.Proofs.Reading.Scalar
import VectorKernel.Proofs.Reading.Token
import VectorKernel.Proofs.Strictness
import VectorKernel.Proofs.Success
import VectorKernel.Proofs.Template.Basic
import VectorKernel.Proofs.Template.Evaluation
import VectorKernel.Proofs.Template.Lowering
import VectorKernel.Proofs.Template.Traced
import VectorKernel.Proofs.Typing
import VectorKernel.Settings
import VectorKernel.Table
import VectorKernel.Target
import VectorKernel.Text.Blank
import VectorKernel.Text.Numeral
import VectorKernel.Text.Split
import VectorKernel.Transition
import VectorKernel.Types.Data
import VectorKernel.Types.Name
import VectorKernel.Types.Numeric
import VectorKernel.Types.Spelling
import VectorKernel.Proofs.Alignment.Lowering
import VectorKernel.Proofs.Alignment.Tree
import VectorKernel.Proofs.Attributes.Alike
import VectorKernel.Proofs.Attributes.Evaluation
import VectorKernel.Proofs.Promotion.Join
import VectorKernel.Proofs.Promotion.Tree
import VectorKernel.Proofs.Merging.Rows
import VectorKernel.Proofs.Merging.Tables
import VectorKernel.Proofs.RoundTrip.Quoted
import VectorKernel.Proofs.RoundTrip.Value
import VectorKernel.Proofs.RoundTrip.Manifest
import VectorKernel.Proofs.Files.Path
import VectorKernel.Proofs.Artifacts
import VectorKernel.Proofs.ShortestChain
import VectorKernel.Proofs.Printing.Failure
import VectorKernel.Proofs.Printing.Runs
import VectorKernel.Proofs.Generation
import VectorKernel.Proofs.Fused
import VectorKernel.Proofs.Addressing
import VectorKernel.Proofs.Grouping.Regroup
import VectorKernel.Proofs.Grouping.Level
import VectorKernel.Proofs.Grouping.Text
import VectorKernel.Proofs.Text
import VectorKernel.Proofs.TypeName
import VectorKernel.Proofs.WellFormed
import VectorKernel.Proofs.Promotion.Laws
import VectorKernel.Proofs.Lanes.Insertion
import VectorKernel.Proofs.Registration
import VectorKernel.Proofs.Listings
import VectorKernel.Proofs.Masked.Access
import VectorKernel.Proofs.Masked.Standard
import VectorKernel.Proofs.Settings.Line
import VectorKernel.Proofs.Settings.Assignments
import VectorKernel.Proofs.Settings.Canonical
import VectorKernel.Proofs.Running
import VectorKernel.Proofs.LaneCount
import VectorKernel.Proofs.Fingerprint
