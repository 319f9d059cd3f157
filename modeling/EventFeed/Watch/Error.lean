import EventFeed.Manager.Basic

/-! # Errors of the watching program

What stops the program from starting. Trouble with the connection is no error: the user learns of it
by notifications.
-/

namespace EventFeed

inductive AppError where
  /-- Something in the program itself. -/
  | app (message : String)
  | logger (message : String)
  | paths (message : String)
  | config (error : ConfigError)
  | realtime (error : ManagerError)
  deriving DecidableEq, Repr

def AppError.message : AppError → String
  | app m => Wording.app m
  | logger m => Wording.logger m
  | paths m => Wording.paths m
  | config e => Wording.appConfig e.message
  | realtime e => Wording.appRealtime e.message

end EventFeed
