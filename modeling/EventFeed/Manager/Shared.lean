import EventFeed.Connection.Lifecycle
import EventFeed.Manager.Basic

/-! # Shared managers

The one manager that a program uses. It is built when it is asked for the first time; from then on
everybody gets the same one. A failure to build it leaves nothing behind.
-/

namespace EventFeed

/-- A manager that has been built, with its lifecycle. -/
structure RunningManager (Observer : Type) where
  manager : Manager
  lifecycle : Lifecycle Observer := {}

/-- The managers of a process. A manager is known by its place in the order in which they were
built. -/
abbrev Managers (Observer : Type) := List (RunningManager Observer)

structure SharedManager where
  /-- What the manager is or will be built with. -/
  config : Config
  /-- The place of the manager, once it has been built. -/
  built : Option Nat := none
  deriving DecidableEq, Repr

namespace SharedManager

variable {Observer : Type}

/-- The manager, which is built if it does not exist. -/
def get (s : SharedManager) (all : Managers Observer) (insideRuntime : Bool) :
    Except ManagerError (Nat × SharedManager × Managers Observer) :=
  match s.built with
  | some n => .ok (n, s, all)
  | none =>
    match Manager.build s.config insideRuntime with
    | .error e => .error e
    | .ok m => .ok (all.length, { s with built := some all.length }, all ++ [{ manager := m }])

def disconnect (s : SharedManager) (all : Managers Observer) : Managers Observer :=
  match s.built with
  | some n => all.modify n fun r => { r with lifecycle := r.lifecycle.disconnect }
  | none => all

end SharedManager

end EventFeed
