import Patchbay.Files.Tree
import Patchbay.Supervision.Basic

/-!
# Hosts

Services run on a host. It starts their programs and tells which of them has ended, and how; what
the programs do is not known here.
-/

namespace Patchbay

/-- What programs leave behind. -/
structure Remains where
  tree : FileTree
  output : String
  errorOutput : String

/-- What services run on. The number that a host gives to a program tells it from all others that
run. -/
structure Host (σ : Type) where
  /-- The state when no program runs, with a tree of files and the variables that all programs are
  given. -/
  boot : FileTree → List (String × String) → σ
  /-- Starts the program of a service. -/
  start : Service → σ → Except OsError Nat × σ
  /-- Waits for the end of a program. There is none if that never comes. -/
  wait : σ → Option (Nat × ExitStatus × σ)
  /-- Ends all programs. -/
  kill : σ → σ
  /-- What is left once nothing goes on. -/
  finish : σ → Remains

end Patchbay
