import StagedFormat.Run

/-!
# The command line

Reads the arguments, does what they ask for on a machine on which no other program can be found,
and writes what the run writes.
-/

set_option autoImplicit false

namespace StagedFormat

def bareMachine : Machine where
  host :=
    { tree := .empty
      workdir := .top
      onSearchPath := fun _ => false
      perform := fun _ _ => .error .notFound
      rejection := fun _ => "" }
  platform := .unix
  colored := false

end StagedFormat

open StagedFormat

def main (arguments : List String) : IO UInt32 := do
  let run := Run.program bareMachine (arguments.map Text.bytesOf)
  let stdout ← IO.getStdout
  let stderr ← IO.getStderr
  stdout.write ⟨run.stdout.toArray⟩
  stderr.write ⟨(run.stderr (Run.note bareMachine run.value.verbose)).toArray⟩
  pure run.value.status.toUInt32
