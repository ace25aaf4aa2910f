import MathProgram.Expression.Order
import MathProgram.Expression.Summation
import MathProgram.Expression.Text
import MathProgram.Logging.Record
import MathProgram.Logging.Subscriber
import MathProgram.Model.Run
import MathProgram.Output.Console
import MathProgram.Proofs.CallProtocol
import MathProgram.Proofs.ScalarAlgebra
import MathProgram.Proofs.Store
import MathProgram.Solver.Backend
import MathProgram.Solver.Script
import MathProgram.Proofs.VectorValue
import MathProgram.Proofs.Feasibility
import MathProgram.Proofs.SentRows
import MathProgram.Proofs.Checked.Access
import MathProgram.Proofs.Checked.Loops
import MathProgram.Proofs.Checked.Scalar
import MathProgram.Proofs.Checked.Constraint
import MathProgram.Proofs.Checked.Instruction
import MathProgram.Proofs.Checked.Program
import MathProgram.Proofs.Moving
import MathProgram.Proofs.BasisUnion
import MathProgram.Proofs.Commutativity
import MathProgram.Proofs.MixedShapes
import MathProgram.Proofs.Accessors
import MathProgram.Proofs.StoreHistory
import MathProgram.Proofs.Workspace
import MathProgram.Proofs.Relabel.Program
import MathProgram.Proofs.OwnVariables
import MathProgram.Proofs.ChangeOfBasis
import MathProgram.Proofs.OwnBasis
import MathProgram.Proofs.NormalForm
import MathProgram.Proofs.Deletion
import MathProgram.Proofs.Componentwise
import MathProgram.Proofs.AffinePart
import MathProgram.Proofs.Summation
import MathProgram.Proofs.Grid
import MathProgram.Proofs.Operands
import MathProgram.Proofs.Broadcast
import MathProgram.Proofs.SilencerUse
import MathProgram.Proofs.GuardUse
import MathProgram.Proofs.RunEvents
import MathProgram.Proofs.Installation
import MathProgram.Proofs.SlotTable
import MathProgram.Proofs.Functoriality
