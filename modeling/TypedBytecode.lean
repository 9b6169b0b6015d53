import TypedBytecode.Text.Word
import TypedBytecode.Width
import TypedBytecode.Name
import TypedBytecode.Primitive
import TypedBytecode.Descriptor
import TypedBytecode.Descriptor.Reader
import TypedBytecode.Descriptor.Record
import TypedBytecode.Access
import TypedBytecode.ClassGraph
import TypedBytecode.ClassGraph.Assignable
import TypedBytecode.ClassGraph.Standard
import TypedBytecode.ValueType
import TypedBytecode.NumericKind
import TypedBytecode.Frame
import TypedBytecode.Frame.Delta
import TypedBytecode.Frame.Requirement
import TypedBytecode.Label
import TypedBytecode.Error
import TypedBytecode.Frame.Operands
import TypedBytecode.LabelFrames
import TypedBytecode.Instruction
import TypedBytecode.Instruction.Text
import TypedBytecode.Code
import TypedBytecode.Listing
import TypedBytecode.Text.Quoted
import TypedBytecode.Text.Record
import TypedBytecode.Number.Decimal
import TypedBytecode.Number.Reader
import TypedBytecode.Operation.Effect
import TypedBytecode.Operation.Arithmetic
import TypedBytecode.Operation.Stack
import TypedBytecode.Operation.Local
import TypedBytecode.Operation.Memory
import TypedBytecode.Operation.Call
import TypedBytecode.Operation.Constant
import TypedBytecode.Operation.Exit
import TypedBytecode.Operation
import TypedBytecode.Builder
import TypedBytecode.Script.Fault
import TypedBytecode.Script.Statement
import TypedBytecode.Script.Resolve
import TypedBytecode.Script
import TypedBytecode.CommandLine
import TypedBytecode.Main
import TypedBytecode.Proofs.Operation
import TypedBytecode.Proofs.Run
import TypedBytecode.Proofs.Layout
import TypedBytecode.Proofs.Joins
import TypedBytecode.Proofs.Delta
import TypedBytecode.Proofs.Description
import TypedBytecode.Proofs.Machine
import TypedBytecode.Proofs.Agreement
import TypedBytecode.Proofs.Balance
import TypedBytecode.Proofs.Soundness
import TypedBytecode.Proofs.Shuffle
import TypedBytecode.Proofs.CallSite
import TypedBytecode.Proofs.Stream
import TypedBytecode.Proofs.IntegerConstant
import TypedBytecode.Proofs.Resolution
import TypedBytecode.Proofs.Size
import TypedBytecode.Proofs.InPlace
import TypedBytecode.Proofs.Words
import TypedBytecode.Proofs.Grammar
import TypedBytecode.Proofs.LocalAccess
import TypedBytecode.Proofs.Unreachable
import TypedBytecode.Proofs.Parameters
import TypedBytecode.Proofs.RelativeSlot
import TypedBytecode.Proofs.Growth
import TypedBytecode.Proofs.ScriptInvariant
import TypedBytecode.Proofs.ScriptGrowth
import TypedBytecode.Proofs.Covariance
import TypedBytecode.Proofs.Reachability
import TypedBytecode.Proofs.Subtyping
import TypedBytecode.Proofs.Renaming
import TypedBytecode.Proofs.LocalViews
import TypedBytecode.Proofs.FieldLookup
import TypedBytecode.Proofs.Formatting
import TypedBytecode.Proofs.OneLine
import TypedBytecode.Proofs.OneLineRun
import TypedBytecode.Proofs.ListingLines
import TypedBytecode.Proofs.Excerpt
