import DeepCopy.Project.Failure

/-!
# Sessions

A command prints as it goes and may fail on the way; what it has printed until then stays printed.

## Main definitions

* `Transcript`: what has been printed
* `Session`: a computation that prints and may fail
* `print`, `note`: printing a line of output, or of remarks
* `Outcome`: what is left of a session
-/

namespace DeepCopy.Command

/-- What has been printed, as output and as remarks. -/
structure Transcript where
  out : String := ""
  err : String := ""
  deriving DecidableEq

/-- A computation that prints and may fail. -/
abbrev Session (m : Type → Type) := ExceptT Failure (StateT Transcript m)

/-- What is left of a session. -/
structure Outcome extends Transcript where
  /-- Zero where nothing failed. -/
  status : Nat
  deriving DecidableEq

variable {m : Type → Type} [Monad m]

/-- Prints a line of output. -/
def print (line : String) : Session m Unit :=
  modify fun t => { t with out := t.out ++ line ++ "\n" }

/-- Prints a line of remarks. -/
def note (line : String) : Session m Unit :=
  modify fun t => { t with err := t.err ++ line ++ "\n" }

/-- A result that is there already. -/
def done {α : Type} (r : Except Failure α) : Session m α := ExceptT.mk (pure r)

/-- A result that has to be asked for. -/
def ask {α : Type} (r : m (Except Failure α)) : Session m α := ExceptT.mk (StateT.lift r)

/-- What is left of a session: a failure becomes a remark. -/
def Session.outcome (s : Session m Unit) : m Outcome := do
  let (r, t) ← StateT.run (ExceptT.run s) {}
  match r with
  | .ok () => return { t with status := 0 }
  | .error e => return { t with err := t.err ++ "Error: " ++ e.message ++ "\n", status := 1 }

end DeepCopy.Command
