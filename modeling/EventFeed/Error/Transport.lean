import EventFeed.Error.Wording

/-! # Transport errors

What can go wrong with a connection: it is not opened, or not in time, or it fails to send or to
receive.
-/

namespace EventFeed

inductive TransportError where
  | connect (message : String)
  | timeout (after : Duration)
  | send (message : String)
  | receive (message : String)
  deriving DecidableEq, Repr

def TransportError.message : TransportError → String
  | connect m => Wording.connect m
  | timeout d => Wording.connectTimeout d
  | send m => Wording.send m
  | receive m => Wording.receive m

end EventFeed
