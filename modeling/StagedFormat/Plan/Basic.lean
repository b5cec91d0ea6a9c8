import StagedFormat.FilesArgument.PassMode
import StagedFormat.Selection

/-!
# Plans

A plan says which files are to be formatted, where, and with which wrapper script.  It comes to a
single request to the build tool, or to none if no file qualifies.
-/

set_option autoImplicit false

namespace StagedFormat

/-- What a run is about to do. -/
structure Plan where
  root : Path
  wrapper : Path
  mode : PassMode
  selection : Selection
  deriving DecidableEq, Repr

structure Request where
  /-- The directory in which the build tool runs. -/
  root : Path
  wrapper : Path
  filesArgument : String
  deriving DecidableEq, Repr

namespace Plan

def filesArgument? (plan : Plan) : Option String :=
  if plan.selection.isEmpty then none
  else some (plan.mode.join plan.root plan.selection.qualifying)

def request? (plan : Plan) : Option Request :=
  plan.filesArgument?.map fun filesArgument => ⟨plan.root, plan.wrapper, filesArgument⟩

theorem filesArgument?_eq_none_iff (plan : Plan) :
    plan.filesArgument? = none ↔ plan.selection.qualifying = [] := by
  simp [filesArgument?, Selection.isEmpty]

theorem request?_eq_none_iff (plan : Plan) :
    plan.request? = none ↔ plan.selection.qualifying = [] := by
  simp [request?, filesArgument?_eq_none_iff]

theorem filesArgument?_of_qualifying (plan : Plan) (changed : plan.selection.qualifying ≠ []) :
    plan.filesArgument? = some (plan.mode.join plan.root plan.selection.qualifying) := by
  simp [filesArgument?, Selection.isEmpty, changed]

theorem request?_of_qualifying (plan : Plan) (changed : plan.selection.qualifying ≠ []) :
    plan.request? =
      some ⟨plan.root, plan.wrapper, plan.mode.join plan.root plan.selection.qualifying⟩ := by
  simp [request?, filesArgument?_of_qualifying plan changed]

end Plan

end StagedFormat
