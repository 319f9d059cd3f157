import EventFeed.Environment.Basic
import EventFeed.Text.Blank

/-! # Log levels

The severity of a record, and the threshold up to which records are admitted.
-/

namespace EventFeed

inductive LogLevel where
  | error
  | warn
  | info
  | debug
  | trace
  deriving DecidableEq, Repr

namespace LogLevel

def name : LogLevel → String
  | error => "ERROR"
  | warn => "WARN"
  | info => "INFO"
  | debug => "DEBUG"
  | trace => "TRACE"

/-- More verbose levels have a higher rank. -/
def rank : LogLevel → Nat
  | error => 1
  | warn => 2
  | info => 3
  | debug => 4
  | trace => 5

def all : List LogLevel := [error, warn, info, debug, trace]

end LogLevel

/-- The ways in which the program is built: one that is being worked on says more. -/
inductive Build where
  | debug
  | release
  deriving DecidableEq, Repr

/-- The most verbose level that is admitted, if any is. -/
inductive LogThreshold where
  | off
  | upTo (level : LogLevel)
  deriving DecidableEq, Repr

namespace LogThreshold

def rank : LogThreshold → Nat
  | off => 0
  | upTo level => level.rank

def name : LogThreshold → String
  | off => "OFF"
  | upTo level => level.name

def admits (t : LogThreshold) (level : LogLevel) : Bool := level.rank ≤ t.rank

def max (a b : LogThreshold) : LogThreshold := if a.rank ≤ b.rank then b else a

def all : List LogThreshold := off :: LogLevel.all.map upTo

/-- The threshold with a name, in letters of either case. -/
def ofName? (name : String) : Option LogThreshold :=
  all.find? fun t => t.name.toList == name.toList.map Char.toUpper

/-- The threshold where none is named. -/
def standard : Build → LogThreshold
  | .debug => upTo .debug
  | .release => upTo .info

/-- The variable that names the threshold. -/
def envName : String := "REGISTRY_WATCH_LOG"

/-- The threshold that the environment names, and the standard one if it names none. -/
def ofEnvironment (build : Build) (env : Environment) : LogThreshold :=
  ((env.text? envName).bind fun value => ofName? (Text.trim value)).getD (standard build)

end LogThreshold

end EventFeed
