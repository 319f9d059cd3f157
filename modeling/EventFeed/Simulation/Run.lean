import EventFeed.Simulation.Task

/-! # Runs

Threads of control take steps until nothing is left to do. The caller's own thread comes first; then
the sessions that can go on take their turns, and when none can, the clock moves to the next alarm,
as far as it may.
-/

namespace EventFeed.Simulation

def World.step (w : World) (t : Thread) : World × Thread :=
  match t.calls with
  | [] => (w, t)
  | .actions [] :: calls => (w, ⟨calls, .none⟩)
  | .actions (a :: rest) :: calls =>
    let (w, value, next) := w.perform a
    (w, ⟨next ++ .yielded a :: .actions rest :: calls, value⟩)
  | .yielded a :: calls => (if t.value.isNone then w else w.note (.did a t.value), ⟨calls, .none⟩)
  | .deliver e :: calls =>
    match w.registry.handlers e.type with
    | [] => (w.report (Report.noHandlers e.type), ⟨calls, .outcome {}⟩)
    | list => (w, ⟨.handlers e list {} :: calls, .none⟩)
  | .handlers e [] o :: calls => (w.report (Report.delivered e.type o), ⟨calls, .outcome o⟩)
  | .handlers e (h :: rest) o :: calls =>
    let (w, next) := w.callHandler e h
    (w, ⟨next ++ .handlers e rest { o with invoked := o.invoked + 1 } :: calls, .none⟩)
  | .handled _ .ok :: calls => (w, ⟨calls, .none⟩)
  | .handled e (.failed message) :: calls =>
    let (w, calls) := w.failHandler e message calls
    (w, ⟨calls, .none⟩)
  | .handled _ .broken :: calls =>
    let (w, calls) := w.unwind calls
    (w, ⟨calls, .none⟩)
  | .flush :: calls =>
    match w.lifecycle.enterDrain? with
    | none => (w, ⟨calls, .none⟩)
    | some l => ({ w with lifecycle := l }, ⟨.drain :: calls, .none⟩)
  | .drain :: calls =>
    match w.lifecycle.takeTransition with
    | (none, l) => ({ w with lifecycle := l }, ⟨calls, .none⟩)
    | (some (t, observers), l) =>
      ({ w with lifecycle := l }.report (Report.transition t.previous t.next),
        ⟨.observers t.next observers :: .drain :: calls, .none⟩)
  | .observers _ [] :: calls => (w, ⟨calls, .none⟩)
  | .observers next (o :: rest) :: calls =>
    (w, ⟨.observer o next :: .observers next rest :: calls, .none⟩)
  | .observer o next :: calls =>
    let (w, more) := w.callObserver next o
    (w, ⟨more ++ calls, .none⟩)
  | .observed false :: calls => (w, ⟨calls, .none⟩)
  | .observed true :: calls =>
    let (w, calls) := w.unwind calls
    (w, ⟨calls, .none⟩)
  | .session epoch :: calls =>
    let (w, calls) := w.runSession epoch t.value calls
    (w, ⟨calls, .none⟩)

/-- Runs a thread until it has nothing left to do; each step takes one unit of fuel. -/
def World.finish : Nat → World → Thread → World × Value
  | 0, w, t => (w, t.value)
  | fuel + 1, w, t => if t.calls.isEmpty then (w, t.value) else
    let (w, t) := w.step t
    finish fuel w t

/-- Lets sessions go on, and the clock move up to a time, until nothing can happen any more. Each
turn of a session and each alarm takes one unit of fuel. -/
def World.settle (fuel : Nat) (limit : Nat) : Nat → World → World
  | 0, w => w
  | turns + 1, w =>
    match w.queue with
    | epoch :: rest =>
      let w := { w with queue := rest }.beginTurn epoch
      let w := (w.finish fuel ⟨[.session epoch], .none⟩).1.endTurn epoch
      settle fuel limit turns w
    | [] =>
      match w.nextAlarm? with
      | some time => if time ≤ limit then settle fuel limit turns (w.ring time) else w
      | none => w

/-- The steps and turns after which a run is cut off; runs of scripts that come to an end stay far
below it. -/
def patience : Nat := 10 ^ 12

/-- The world at the start, with the answers to the first attempts. -/
def World.start (scenario : Scenario) (opens : List OpenScript) : World := { scenario, opens }

/-- Performs an action from outside, while the sessions wait. -/
def World.act (w : World) (a : Action) : World × Value :=
  let (w, value, calls) := w.perform a
  w.finish patience ⟨calls, value⟩

/-- Lets everything happen that can happen now. -/
def World.rest (w : World) : World := w.settle patience w.now patience

def World.elapse (w : World) (millis : Nat) : World :=
  let limit := w.now + millis
  { w.settle patience limit patience with now := limit }

/-- Lets time pass until the connection is in a state; none if it never is. Each alarm takes one
unit of fuel. -/
def World.awaitState (state : ConnectionState) : Nat → World → Option World
  | 0, _ => none
  | fuel + 1, w =>
    let w := w.rest
    if w.lifecycle.state = state then some w
    else w.nextAlarm?.bind fun time => awaitState state fuel (w.ring time)

/-- Takes the entries out of the journal, earliest first. -/
def World.takeJournal (w : World) : List (Nat × Entry) × World :=
  (w.journal.reverse, { w with journal := [] })

end EventFeed.Simulation
