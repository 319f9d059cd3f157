import EventFeed.Connection.Frame
import EventFeed.Environment.Basic

/-! # Messages on a socket

What a socket carries, and which frames it makes. A binary message that holds text counts as text,
and every other binary message is left out.
-/

namespace EventFeed

inductive Message where
  | text (value : String)
  | binary (data : ByteArray)
  | ping (data : ByteArray)
  | pong (data : ByteArray)
  /-- A code and a reason may be given. -/
  | close (reason : Option (Nat × String))
  /-- A part of a message. -/
  | fragment (data : ByteArray)
  deriving DecidableEq

namespace Message

def frame? : Message → Option Frame
  | text s => some (.text s)
  | binary data => (decodeText data).map .text
  | ping data => some (.ping data)
  | pong data => some (.pong data)
  | close _ => some .close
  | fragment _ => none

def ofFrame : Frame → Message
  | .text s => .text s
  | .ping data => .ping data
  | .pong data => .pong data
  | .close => .close none

/-- A frame comes back from the message that carries it. -/
@[simp] theorem frame?_ofFrame (f : Frame) : (ofFrame f).frame? = some f := by
  cases f <;> rfl

end Message

/-- What comes in when a socket yields messages and failures. -/
def Inbound.ofMessages (items : List (Except String Message)) : List Inbound :=
  items.filterMap fun
    | .ok m => m.frame?.map .frame
    | .error reason => some (.failed (.receive reason))

/-- The records and errors of the socket. -/
def TransportError.handshake (endpoint reason : String) : TransportError :=
  .connect s!"WebSocket handshake with {endpoint} failed: {reason}"

inductive SocketFault where
  | refused
  | unreachable
  deriving DecidableEq, Repr

def SocketFault.message : SocketFault → String
  | refused => "IO error: Connection refused (os error 111)"
  | unreachable => "IO error: Network is unreachable (os error 101)"

end EventFeed
