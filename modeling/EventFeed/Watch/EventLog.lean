import EventFeed.Event.Basic

/-! # The event log

One line for every registry event: its type, the server's time when there is one, and the payload.
-/

namespace EventFeed

def EventTimestamp.describe : EventTimestamp → String
  | millis n => s!" @{n}"
  | text t => " @" ++ t

def Event.describe (e : Event) : String :=
  let time := match e.timestamp with
    | some t => t.describe
    | none => ""
  e.type.name ++ time ++ " " ++ e.payload.text

/-- The types whose events are logged. -/
def watchedTypes : List EventType := EventType.known

end EventFeed
