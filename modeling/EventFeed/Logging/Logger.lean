import EventFeed.Environment.Basic
import EventFeed.Files.Content
import EventFeed.Files.Path
import EventFeed.Logging.Record

/-! # The logger

Records go to standard output, in colours, and to a file. A process has one logger, which it sets up
once: the first attempt counts, whether it succeeds or fails, and later ones do nothing.
-/

namespace EventFeed

/-- A record as it is written: with the time and the place in the program. -/
structure LogLine where
  date : String
  record : LogRecord
  place : String
  deriving DecidableEq, Repr

namespace LogLine

def render (l : LogLine) (level : String) : String :=
  "[" ++ l.date ++ " - " ++ level ++ "] " ++ l.record.message ++ " [" ++ l.place ++ "]\n"

/-- The number of the colour of a level on a terminal. -/
def colour : LogLevel → String
  | .error => "31"
  | .warn => "33"
  | .info => "32"
  | .debug => "34"
  | .trace => "35"

/-- The line on standard output. -/
def coloured (l : LogLine) : String :=
  l.render ("\x1b[" ++ colour l.record.level ++ "m" ++ l.record.level.name ++ "\x1b[0m")

def plain (l : LogLine) : String := l.render l.record.level.name

end LogLine

namespace LogFilter

/-- The parts of the program whose records are held back: those of the socket. -/
def quietTargets : List String := ["tungstenite", "tokio_tungstenite"]

def quietThreshold : LogThreshold := .upTo .warn

/-- The targets above a target that is given from its end: what stands in front of each pair of
colons. -/
def above : List Char → List (List Char)
  | ':' :: ':' :: rest => rest.reverse :: above rest
  | _ :: rest => above rest
  | [] => []

def isQuiet (target : String) : Bool :=
  (target.toList :: above target.toList.reverse).any fun t =>
    quietTargets.any fun quiet => quiet.toList == t

/-- The threshold for the records of a target; the quiet parts have their own. -/
def threshold (standard : LogThreshold) (target : String) : LogThreshold :=
  if isQuiet target then quietThreshold else standard

def admits (standard : LogThreshold) (r : LogRecord) : Bool :=
  (threshold standard r.target).admits r.level

/-- The threshold beyond which no record of any target is written. -/
def highest (standard : LogThreshold) : LogThreshold := standard.max quietThreshold

end LogFilter

structure Logger where
  /-- Whether it has been tried to set up the logger. -/
  tried : Bool := false
  /-- The threshold with which the logger is installed. -/
  installed : Option LogThreshold := none
  /-- What has been written to standard output, and to the file if there is one. -/
  lines : List LogLine := []
  deriving DecidableEq, Repr

namespace Logger

def fileName : String := "registry-watch.log"

/-- Beyond this threshold no record is handed to the logger. -/
def maxThreshold (l : Logger) : LogThreshold :=
  match l.installed with
  | some t => LogFilter.highest t
  | none => .off

/-- Writes a record, if a logger is installed that admits it. -/
def write (l : Logger) (line : LogLine) : Logger :=
  match l.installed with
  | some t => if LogFilter.admits t line.record then { l with lines := l.lines ++ [line] } else l
  | none => l

/-- The message about a log file that cannot be created. -/
def createFailure (dir : Path) (fault : FileFault) : String :=
  s!"Failed to create log file {(dir.join fileName).display}: {fault.message}"

/-- The name of a threshold in the logger's own records. -/
def thresholdText : LogThreshold → String
  | .off => "Off"
  | .upTo .error => "Error"
  | .upTo .warn => "Warn"
  | .upTo .info => "Info"
  | .upTo .debug => "Debug"
  | .upTo .trace => "Trace"

/-- Sets up the logger with its file in a directory; `file` tells whether the file can be created.
`line` makes a line of one of the logger's own records. -/
def setUp (l : Logger) (line : LogRecord → LogLine) (threshold : LogThreshold) (dir : Path)
    (file : Except FileFault Unit) : Except String Unit × Logger :=
  if l.tried then (.ok (), l.write (line (.watch .warn "Logger already initialized")))
  else
    match file with
    | .error fault => (.error (createFailure dir fault), { l with tried := true })
    | .ok () =>
      let l := { l with tried := true, installed := some threshold }
      let message := "Logger initialized with level: " ++ thresholdText threshold
      (.ok (), l.write (line (.watch .info message)))

end Logger

end EventFeed
