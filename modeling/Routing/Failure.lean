import Routing.Error

/-! Failures of tasks made of several steps: a cause, and what was being done when it arose. -/
namespace Routing

inductive FailureCause
  | routing (e : Error)
  /-- A text that is no route table. -/
  | malformed
  /-- A file that cannot be read, with the reason. -/
  | unreadable (reason : String)
  | other (message : String)
deriving DecidableEq, Repr

structure Failure where
  /-- What was being done, the outermost task first. -/
  context : List String := []
  cause : FailureCause
deriving DecidableEq, Repr

namespace Failure

def ofError (e : Error) : Failure := { cause := .routing e }

/-- Adds a task around those of the failure. -/
def inside (f : Failure) (task : String) : Failure :=
  { f with context := task :: f.context }

/-- All messages, the outermost first. That a text is malformed has no message of its own. -/
def messages (f : Failure) : List String :=
  f.context ++
    match f.cause with
    | .routing e => [e.message]
    | .malformed => []
    | .unreadable reason => [reason]
    | .other message => [message]

end Failure

def inTask {α : Type} (task : String) (x : Except Error α) : Except Failure α :=
  x.mapError fun e => (Failure.ofError e).inside task

end Routing
