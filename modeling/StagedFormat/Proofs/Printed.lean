import StagedFormat.Proofs.Attempts

/-!
# What the parts of a run print

Questions about the repository and the making of plans leave the standard output alone.  Only the
build tool may write there, and it does not if its output is redirected.
-/

set_option autoImplicit false

namespace StagedFormat

namespace Action

/-! ## Single events -/

section

variable {α β : Type} (past : List Started)

@[simp] theorem stdout_map (change : α → β) (action : Action α) :
    ((change <$> action) past).stdout = (action past).stdout := by
  rw [← bind_pure_comp, stdout_bind, stdout_pure, List.append_nil]

@[simp] theorem stdout_log (entry : LogRecord) : (log entry past).stdout = [] := rfl

@[simp] theorem stdout_print (text : String) :
    (print text past).stdout = Text.bytesOf text := by
  simp [print, emit, Traced.stdout, Event.toStdout]

@[simp] theorem stdout_emit_stdout (bytes : List UInt8) :
    (emit (.stdout bytes) past).stdout = bytes := by
  simp [emit, Traced.stdout, Event.toStdout]

@[simp] theorem stdout_emit_stderr (bytes : List UInt8) :
    (emit (.stderr bytes) past).stdout = [] := rfl

@[simp] theorem stdout_start (host : Host) (wish : Start) :
    (start host wish past).stdout = [] := rfl

end

/-! ## Silent actions -/

/-- An action that leaves the standard output alone. -/
def IsSilent {α : Type} (action : Action α) : Prop :=
  ∀ past, (action past).stdout = []

theorem stdout_bind_of_silent {α β : Type} (past : List Started) (first : Action α)
    {next : α → Action β} (silent : ∀ value, IsSilent (next value)) :
    ((first >>= next) past).stdout = (first past).stdout := by
  rw [stdout_bind, silent, List.append_nil]

theorem isKept_isSilent : IsKept IsSilent where
  pure _ _ := rfl
  log _ _ := rfl
  bind begins goes past := (stdout_bind_of_silent past _ goes).trans (begins past)

theorem isSilent_start (host : Host) (wish : Start) : IsSilent (start host wish) := fun _ => rfl

end Action

open StagedFormat.Action

/-! ## The build tool -/

theorem Wrapper.isSilent_apply (wrapper : Wrapper) (host : Host) (request : Request)
    (redirected : wrapper.output = .redirected) : IsSilent (wrapper.apply host request) := by
  refine isKept_isSilent.apply (isSilent_start host) wrapper request fun completion => ?_
  refine isKept_isSilent.relay wrapper completion (fun _ _ => rfl) fun shared => ?_
  rw [shared] at redirected
  cases redirected

end StagedFormat
