import EventFeed.Proofs.Interleaving.Moves
import EventFeed.Proofs.Reconnection.Ahead

/-! # Runs that enact outcomes

A run fits given outcomes when the clock moves on only while sessions are idle, and connections are
lost when they are to be lost.
-/

namespace EventFeed.Simulation

/-! ## Idle sessions -/

/-- Whether a step comes to nothing but waiting, and not for anything due before a time. -/
def Progress.idlesUntil (time : Nat) : Progress → Bool
  | .wait _ alarms => alarms.all fun alarm => time ≤ alarm.2
  | _ => false

namespace World

/-- Whether all that sessions can do is wait, and not for anything due before a time. -/
def idlesUntil (w : World) (time : Nat) : Bool :=
  w.tasks.all fun t => (w.stepSession t.session t.activity .none).2.2.idlesUntil time

def isLosing (w : World) : Bool := w.tasks.any fun t => t.activity.isLosing

end World

/-! ## What is seen of a run -/

/-- What is seen at a time at which attempts are made and one state follows another. -/
def marksAt (time : Nat) (attempts : List Mark) (previous next : ConnectionState) :
    List TimedMark :=
  (attempts ++ (previous.changeTo next).map fun t => Mark.state t.next).map fun mark =>
    (millis time, mark)

/-- The attempt that a session at an activity is about to make. -/
def Activity.attempts : Activity → List Mark
  | .calling => [.attempt]
  | _ => []

namespace World

/-- The attempt that is made when a call goes on. -/
def attempts (w : World) : Option Call → List Mark
  | some (.session epoch) => (w.task? epoch).elim [] fun t => t.activity.attempts
  | _ => []

/-- What is seen when a call goes on and leads to another world. -/
def marks (w : World) (call : Option Call) (w' : World) : List TimedMark :=
  marksAt w.now (w.attempts call) w.lifecycle.state w'.lifecycle.state

end World

namespace Pool

def marks (p : Pool) (m : Move) : List TimedMark := p.world.marks (p.call? m) (p.move m).world

/-- The requests that a move makes, each with its time. -/
def requested (p : Pool) (m : Move) : List (Nat × Action) :=
  ((p.performed m).filter Action.isRequest).map fun a => (p.world.now, a)

end Pool

/-! ## Runs that fit -/

def Move.tick? : Move → Option Nat
  | .tick time => some time
  | _ => none

namespace Pool

/-- A move fits the outcomes, given what has been seen before: the clock goes no further than idle
sessions wait and a connection is to last, and a connection is lost only when it is to be lost. -/
def Fits (outcomes : List Outcome) (seen : List TimedMark) (p : Pool) (m : Move) : Prop :=
  (∀ time ∈ m.tick?, p.world.idlesUntil time = true ∧
    ∀ due ∈ lossDue? outcomes seen, millis time ≤ due) ∧
  (p.world.isLosing = false → (p.move m).world.isLosing = true →
    lossDue? outcomes seen = some (millis p.world.now))

instance (outcomes : List Outcome) (seen : List TimedMark) (p : Pool) (m : Move) :
    Decidable (p.Fits outcomes seen m) := inferInstanceAs (Decidable (_ ∧ _))

/-- All moves fit the outcomes, given what has been seen before them. -/
def Enacts (outcomes : List Outcome) : List TimedMark → Pool → List Move → Prop
  | _, _, [] => True
  | seen, p, m :: moves =>
    p.Fits outcomes seen m ∧ Enacts outcomes (seen ++ p.marks m) (p.move m) moves

instance decidableEnacts (outcomes : List Outcome) :
    (seen : List TimedMark) → (p : Pool) → (moves : List Move) →
      Decidable (Enacts outcomes seen p moves)
  | _, _, [] => inferInstanceAs (Decidable True)
  | seen, p, m :: moves =>
    have := decidableEnacts outcomes (seen ++ p.marks m) (p.move m) moves
    inferInstanceAs (Decidable (_ ∧ _))

variable {outcomes : List Outcome} {seen : List TimedMark} {p : Pool} {moves : List Move} {m : Move}

theorem enacts_concat : Enacts outcomes seen p (moves ++ [m]) ↔
    Enacts outcomes seen p moves ∧
      (p.run moves).Fits outcomes (seen ++ p.trace marks moves) m := by
  induction moves generalizing seen p with
  | nil => simp [Enacts]
  | cons first moves ih =>
      rw [List.cons_append, Enacts, Enacts, ih, and_assoc, trace, List.append_assoc]
      rfl

end Pool

end EventFeed.Simulation
