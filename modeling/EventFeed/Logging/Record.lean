import EventFeed.Logging.Level

/-! # Log records

What is written to a log: a message with its severity and with the part of the program that it comes
from.
-/

namespace EventFeed

structure LogRecord where
  level : LogLevel
  /-- The part of the program that the record comes from; parts of parts are set off by `::`. -/
  target : String
  message : String
  deriving DecidableEq, Repr

namespace LogRecord

def connectionTarget : String := "connection"

def watchTarget : String := "watch"

def connection (level : LogLevel) (message : String) : LogRecord :=
  ⟨level, connectionTarget, message⟩

def watch (level : LogLevel) (message : String) : LogRecord := ⟨level, watchTarget, message⟩

end LogRecord

end EventFeed
