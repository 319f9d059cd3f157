import EventFeed.Proofs.Isolation.Sessions
import Mathlib.Logic.Function.Iterate

/-! # Turns

As long as there is one session at most, its steps make one sequence of essences, whatever happens
in between. The sequence comes to rest where the session can only wait, and what is seen on the way
does not depend on who took how long to get there.
-/

namespace EventFeed.Simulation

def Progress.isWait : Progress → Bool
  | .wait .. => true
  | _ => false

/-- An answer is there, or it is settled that none comes. -/
def Activity.isAnswering : Activity → Bool
  | answering .. => true
  | _ => false

namespace World

variable (w : World)

/-! ## Waiting -/

/-- A session that waits where it is does nothing. -/
theorem stepSession_idles {s : Session} {a : Activity} {value : Value}
    (hanswering : a.isAnswering = false)
    (h : (w.stepSession s a value).2.2.isWait = true) :
    ∃ alarms, w.stepSession s a value = (w, s, .wait a alarms) := by
  have hcomes := w.stepSession_comes s a value
  generalize w.stepSession s a value = r at hcomes h ⊢
  cases hcomes with
  | await | idle | awaitPing | waitOn | awaitClose => exact ⟨_, rfl⟩
  | hang => cases hanswering
  | _ => cases h

/-! ## Turns -/

/-- What is left of the world when the only session has taken a step, as far as the connection goes.
-/
def turn : World :=
  match w.tasks.head? with
  | some task => (w.essence.runSession task.session.epoch .none []).1.essence
  | none => w.essence

/-- Sessions can do nothing but wait where they are. -/
def Calm : Prop := ∀ task ∈ w.tasks, task.activity.isAnswering = false ∧
  (w.stepSession task.session task.activity .none).2.2.isWait = true

instance : Decidable w.Calm := inferInstanceAs (Decidable (∀ task ∈ w.tasks, _))

@[simp] theorem turn_of_essence : w.essence.turn = w.turn := by
  have htasks : w.essence.tasks.head? = w.tasks.head?.map Task.essence := by simp [essence]
  unfold turn
  rw [htasks]
  cases w.tasks.head? <;> simp [Task.essence]

variable {w}

theorem eq_of_length_le_one {task : Task} (hsolo : w.tasks.length ≤ 1) (htask : task ∈ w.tasks) :
    w.tasks = [task] := by
  cases htasks : w.tasks with
  | nil => rw [htasks] at htask; cases htask
  | cons t rest =>
      rw [htasks, List.length_cons] at hsolo
      obtain rfl : rest = [] := List.eq_nil_of_length_eq_zero (by omega)
      rw [htasks, List.mem_singleton] at htask
      rw [htask]

/-- A step of the only session is a turn, or does nothing to the connection. -/
theorem runSession_turn {epoch : UInt64} (value : Value) (below : List Call)
    (hsolo : w.tasks.length ≤ 1) :
    (w.runSession epoch value below).1.essence = w.essence ∨
      (w.runSession epoch value below).1.essence = w.turn := by
  cases htask : w.task? epoch with
  | none => exact .inl (by rw [runSession_absent htask])
  | some task =>
      have htasks : w.tasks = [task] :=
        eq_of_length_le_one hsolo (List.mem_of_find?_eq_some htask)
      obtain rfl : task.session.epoch = epoch := epoch_of_task? htask
      by_cases hdelivered : ∃ n h type, task.activity = .delivered n h type
      · obtain ⟨n, h, type, hactivity⟩ := hdelivered
        exact .inl (w.delivered_essence value below htasks hactivity)
      · refine .inr ?_
        have hturn : w.turn = (w.essence.runSession task.session.epoch .none []).1.essence := by
          simp [turn, htasks]
        rw [hturn]
        refine (w.runSession_essence value .none below [] fun task' htask' n h type heq => ?_).symm
        obtain rfl := Option.some.inj (htask.symm.trans htask')
        exact hdelivered ⟨n, h, type, heq⟩

/-- Sessions do not start others. -/
theorem runSession_tasks_length (w : World) (epoch : UInt64) (value : Value) (below : List Call) :
    (w.runSession epoch value below).1.tasks.length ≤ w.tasks.length := by
  unfold runSession
  split
  next => exact Nat.le_refl _
  next task htask =>
    have htasks := (w.stepSession_steps task.session task.activity value).tasks
    rw [← htasks]
    split
    next heq => simp [heq, setTask]
    next heq => simp [heq, setAlarms, setTask]
    next heq =>
      rw [heq]
      exact List.length_filter_le _ _

/-- Once sessions can only wait, a turn does nothing. -/
theorem Calm.turn_eq (h : w.Calm) (hsolo : w.tasks.length ≤ 1) : w.turn = w.essence := by
  cases htasks : w.tasks with
  | nil => simp [turn, htasks]
  | cons task rest =>
      have hmem : task ∈ w.tasks := by simp [htasks]
      obtain ⟨hanswering, hwait⟩ := h task hmem
      obtain ⟨alarms, hidle⟩ := w.stepSession_idles hanswering hwait
      have hone := eq_of_length_le_one hsolo hmem
      have htask : w.task? task.session.epoch = some task := by simp [task?, hone]
      have hturn : w.turn = (w.essence.runSession task.session.epoch .none []).1.essence := by
        simp [turn, hone]
      have hdelivered : ∀ n h type, task.activity ≠ .delivered n h type := by
        intro n h type heq
        rw [heq] at hidle
        cases hidle
      rw [hturn, w.runSession_essence .none .none [] [] fun task' htask' => by
          obtain rfl := Option.some.inj (htask.symm.trans htask')
          exact hdelivered,
        runSession_conclude _ _ _ htask, hidle]
      simp [outline, conclude, Progress.essence, setTask, essence, hone, Task.essence]

end World

/-! ## What is seen -/

/-- What is seen of a connection from outside, and of how it is kept alive. -/
structure Sight where
  now : Nat
  state : ConnectionState
  attempts : UInt32
  /-- When a connection is lost for want of a reply. -/
  deadlines : List Nat
  /-- Why a connection is being given up. -/
  losses : List Loss
  /-- The number of sends that have been started on each connection. -/
  started : List Nat
  /-- The frames that have gone out, each with its time and its connection, latest first. -/
  sent : List (Nat × Nat × Outbound)
  deriving DecidableEq

def Activity.deadline? : Activity → Option Nat
  | serving _ h | delivered _ h _ | pinging _ h _ _ => h.deadline
  | _ => none

def Activity.loss? : Activity → Option Loss
  | losing _ loss => some loss
  | _ => none

def Entry.outbound? : Entry → Option (Nat × Outbound)
  | .sent n frame => some (n, frame)
  | _ => none

namespace World

def sight (w : World) : Sight where
  now := w.now
  state := w.lifecycle.state
  attempts := w.lifecycle.attempts
  deadlines := w.tasks.filterMap fun t => t.activity.deadline?
  losses := w.tasks.filterMap fun t => t.activity.loss?
  started := w.links.map Link.started
  sent := w.journal.filterMap fun entry => entry.2.outbound?.map fun sent => (entry.1, sent)

variable {w w' c : World}

/-- All that is seen belongs to the essence. -/
@[simp] theorem sight_essence (w : World) : w.essence.sight = w.sight := by
  have hdeadline : ∀ a : Activity, a.essence.deadline? = a.deadline? := by
    intro a
    cases a <;> rfl
  have hloss : ∀ a : Activity, a.essence.loss? = a.loss? := by
    intro a
    cases a <;> rfl
  have hsent : (w.journal.filter fun entry => entry.2.isSent).filterMap
      (fun entry => entry.2.outbound?.map fun sent => (entry.1, sent)) =
        w.journal.filterMap fun entry => entry.2.outbound?.map fun sent => (entry.1, sent) := by
    rw [List.filterMap_filter]
    refine congrArg (List.filterMap · w.journal) (funext fun entry => ?_)
    cases h : entry.2 <;> simp [Entry.isSent, Entry.outbound?]
  simp only [sight, essence, hsent, List.filterMap_map, List.map_map]
  simp [Function.comp_def, Task.essence, hdeadline, hloss, Link.essence, Lifecycle.essence]

/-- What is newly seen when one world follows another. -/
def shows (w w' : World) : List Sight := if w'.sight = w.sight then [] else [w'.sight]

theorem shows_of_essence (w w' : World) : w.essence.shows w'.essence = w.shows w' := by
  simp [shows]

/-- What is seen while some turns are taken. -/
def passes : Nat → World → List Sight
  | 0, _ => []
  | n + 1, w => w.shows w.turn ++ passes n w.turn

theorem passes_add (n k : Nat) (w : World) :
    passes (n + k) w = passes n w ++ passes k (turn^[n] w) := by
  induction n generalizing w with
  | zero => simp [passes]
  | succ n ih => simp [Nat.succ_add, passes, ih, Function.iterate_succ_apply]

theorem passes_of_turn_eq (h : c.turn = c) (n : Nat) : passes n c = [] := by
  induction n with
  | zero => rfl
  | succ n ih => rw [passes, h, ih, shows, if_pos rfl, List.append_nil]

/-- Turns come to rest in one place and in one way. -/
theorem rest_unique {n k : Nat} (hn : (turn^[n] c).turn = turn^[n] c)
    (hk : (turn^[k] c).turn = turn^[k] c) :
    turn^[n] c = turn^[k] c ∧ passes n c = passes k c := by
  -- the longer way goes on at rest where the shorter one ends
  have hshorter : ∀ {n k : Nat}, (turn^[n] c).turn = turn^[n] c → n ≤ k →
      turn^[n] c = turn^[k] c ∧ passes n c = passes k c := by
    intro n k hn hle
    obtain ⟨j, rfl⟩ := Nat.exists_eq_add_of_le hle
    rw [passes_add, passes_of_turn_eq hn, List.append_nil, Nat.add_comm n j,
      Function.iterate_add_apply, Function.iterate_fixed hn]
    exact ⟨rfl, rfl⟩
  rcases Nat.le_total n k with hle | hle
  · exact hshorter hn hle
  · obtain ⟨hworlds, hsights⟩ := hshorter hk hle
    exact ⟨hworlds.symm, hsights.symm⟩

end World

end EventFeed.Simulation
