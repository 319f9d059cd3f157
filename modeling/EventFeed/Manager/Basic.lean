import EventFeed.Config.Load

/-! # Managers

A manager holds the one connection of a program. It is built from a configuration that must be
valid, and only where there is an event loop on which its sessions can run.
-/

namespace EventFeed

inductive ManagerError where
  | config (error : ConfigError)
  | noRuntime
  deriving DecidableEq, Repr

def ManagerError.message : ManagerError → String
  | config e => Wording.managerConfig e.message
  | noRuntime => Wording.noRuntime "a manager must be built inside a running event loop"

/-- What is fixed when a manager is built. -/
structure Manager where
  config : Config := {}
  /-- The endpoint in normal form. -/
  endpoint : String := ""
  deriving DecidableEq, Repr

namespace Manager

/-- Builds a manager. A fault of the configuration is reported before the want of an event loop. -/
def build (config : Config) (insideRuntime : Bool) : Except ManagerError Manager :=
  match config.validate with
  | .error v => .error (.config (.validation v))
  | .ok () =>
    match config.endpointUrl with
    | .error v => .error (.config (.validation v))
    | .ok url => if insideRuntime then .ok ⟨config, url.text⟩ else .error .noRuntime

end Manager

end EventFeed
