import EventFeed.Connection.Frame

/-! # Heartbeats

An open connection is probed at regular times. The first probe without a reply arms a deadline, a
reply clears it, and a connection that reaches its deadline is lost. Times are milliseconds of one
clock.
-/

namespace EventFeed

structure Heartbeat where
  interval : Nat
  timeout : Nat
  /-- When the next probe is due. -/
  nextTick : Nat
  /-- When the connection is lost for want of a reply. -/
  deadline : Option Nat := none
  deriving DecidableEq, Repr

namespace Heartbeat

/-- The heartbeat of a connection opened now; the first probe is due a whole interval later. -/
def start (interval timeout now : Nat) : Heartbeat :=
  { interval, timeout, nextTick := now + interval }

/-- How late a probe may be without moving those after it. -/
def tolerance : Nat := 5

def isDue (h : Heartbeat) (now : Nat) : Bool := h.nextTick ≤ now

/-- Takes a probe that is due. The next one follows an interval after this one was due, or, if this
one is late beyond tolerance, an interval after it was taken. -/
def takeTick (h : Heartbeat) (now : Nat) : Heartbeat :=
  { h with nextTick := (if h.nextTick + tolerance < now then now else h.nextTick) + h.interval }

def pingSent (h : Heartbeat) (now : Nat) : Heartbeat :=
  { h with deadline := h.deadline.or (some (now + h.timeout)) }

def acknowledge (h : Heartbeat) : Heartbeat := { h with deadline := none }

def isExpired (h : Heartbeat) (now : Nat) : Bool :=
  match h.deadline with
  | some d => d ≤ now
  | none => false

end Heartbeat

/-- What is next on an open connection. -/
inductive Turn where
  | stop
  | expire
  | read (item : Inbound) (rest : List Inbound)
  | ping
  | wait

/-- Being told to stop comes first, then the deadline, then what has come in, then a probe. -/
def Heartbeat.turn (h : Heartbeat) (now : Nat) (stopped : Bool) (inbox : List Inbound) : Turn :=
  if stopped then .stop
  else if h.isExpired now then .expire
  else
    match inbox with
    | item :: rest => .read item rest
    | [] => if h.isDue now then .ping else .wait

end EventFeed
