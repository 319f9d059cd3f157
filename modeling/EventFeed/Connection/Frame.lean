import EventFeed.Error.Transport
import EventFeed.Event.Basic

/-! # Frames

The units in which a connection carries data, and what a client makes of those that come in.
-/

namespace EventFeed

inductive Frame where
  | text (value : String)
  | ping (data : ByteArray)
  | pong (data : ByteArray)
  | close
  deriving DecidableEq

inductive Inbound where
  | frame (frame : Frame)
  | failed (error : TransportError)
  /-- Nothing more will come. -/
  | ended
  deriving DecidableEq

/-- What a client sends: heartbeats, which hold the time in milliseconds, and a close frame at the
end. -/
inductive Outbound where
  | ping (time : Nat)
  | close
  deriving DecidableEq

namespace Outbound

def pingName : String := "ping"

/-- The text of a heartbeat; the time is given as text. -/
def pingText (time : String) : String :=
  "\x7b" ++ s!"\"type\":\"{pingName}\",\"timestamp\":{time}" ++ "\x7d"

def frame : Outbound → Frame
  | ping time => .text (pingText (toString time))
  | close => .close

end Outbound

/-- Why an open connection is given up although nobody asked for it. -/
inductive Loss where
  | closedByServer
  | streamEnded
  | receive (error : TransportError)
  | noReply (timeout : Duration)
  | pingFailed (error : TransportError)
  | pingStalled (timeout : Duration)
  deriving DecidableEq, Repr

def Loss.message : Loss → String
  | closedByServer => "closed by server"
  | streamEnded => "stream ended"
  | receive e => e.message
  | noReply d => s!"no heartbeat reply within {d.text}"
  | pingFailed e => s!"heartbeat send failed: {e.message}"
  | pingStalled d => s!"heartbeat send stalled for {d.text}"

/-- What a client makes of an item. -/
inductive Reading where
  | event (event : Event)
  /-- The reply to a heartbeat. -/
  | acknowledgement
  /-- A probe of the server, which the transport answers. -/
  | probe (length : Nat)
  | malformed (error : FrameError)
  | over (loss : Loss)

def Reading.ofText (text : String) : Reading :=
  match Event.parse text with
  | .ok e => if e.isPong then acknowledgement else event e
  | .error e => malformed e

def Inbound.reading : Inbound → Reading
  | frame (.text s) => .ofText s
  | frame (.pong _) => .acknowledgement
  | frame (.ping data) => .probe data.size
  | frame .close => .over .closedByServer
  | failed e => .over (.receive e)
  | ended => .over .streamEnded

end EventFeed
