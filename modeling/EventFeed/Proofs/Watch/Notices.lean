import EventFeed.Proofs.Interleaving.Views
import Mathlib.Data.List.Induction

/-! # What the notifier has shown

The notifier remembers the state that it has been told last, and the journal holds the notifications
that it has given out. Both change when the notifier is told a state, and at no other time.
-/

namespace EventFeed.Simulation

/-- The notification that has been given out, if that is what has happened. -/
def Entry.notified? : Entry → Option Notification
  | .notified n => some n
  | _ => none

structure Notices where
  /-- The state that the notifier has been told last. -/
  previous : ConnectionState
  /-- What it has given out, earliest first. -/
  shown : List Notification

/-- The notifier is told a state. -/
def Notices.tell (n : Notices) (next : ConnectionState) : Notices where
  previous := next
  shown := n.shown ++ (Notification.forChange n.previous next).toList

def World.notices (w : World) : Notices where
  previous := w.notifier.previous
  shown := w.journal.reverse.filterMap fun entry => entry.2.notified?

/-- The state that the notifier is told when a call goes on. -/
def Call.heard : Option Call → List ConnectionState
  | some (.observer .notifier next) => [next]
  | _ => []

namespace World

variable (w : World)

theorem note_notices {e : Entry} (h : e.notified? = none) : (w.note e).notices = w.notices := by
  simp [notices, note, h]

theorem notices_overlooks : OverlooksManager World.notices where
  turns _ _ _ := rfl
  note w e he := by
    refine w.note_notices ?_
    cases e with
    | notified => cases he
    | _ => rfl
  observers _ _ _ _ := rfl
  manager _ _ _ _ _ _ := rfl

theorem notices_overlooks_callbacks : OverlooksCallbacks World.notices :=
  { notices_overlooks with callbacks := fun _ _ _ _ => rfl }

/-- The notifier gives out what there is to be said of the change, and remembers the state. -/
theorem callObserver_notices (next : ConnectionState) :
    (w.callObserver next .notifier).1.notices = w.notices.tell next := by
  simp only [callObserver, StateNotifier.notify]
  cases hshown : Notification.forChange w.notifier.previous next with
  | none => simp [notices, Notices.tell, hshown]
  | some n =>
      refine (notices_overlooks.report _ _).trans ?_
      simp [notices, Notices.tell, note, hshown, Entry.notified?]

theorem startSend_notices (n : Nat) : (w.startSend n).2.notices = w.notices := by
  unfold startSend
  split <;> rfl

theorem release_notices (n : Nat) : (w.release n).notices = w.notices := by
  unfold release
  split
  · exact note_notices _ rfl
  · rfl

theorem setInbox_notices (n : Nat) (inbox : List Inbound) :
    (w.setInbox n inbox).notices = w.notices := by
  unfold setInbox
  split <;> rfl

/-- A session tells the notifier nothing by itself. -/
theorem stepSession_notices (s : Session) (a : Activity) (value : Value) :
    (w.stepSession s a value).1.notices = w.notices := by
  have hreport : ∀ (w : World) r, (w.report r).notices = w.notices := notices_overlooks.report
  cases ha : a.handlesLink with
  | false => exact notices_overlooks.stepSession w s value ha
  | true =>
      have hcomes := w.stepSession_comes s a value
      generalize w.stepSession s a value = r at hcomes ⊢
      cases hcomes with
      | tooLateToConnect _ hreported =>
          subst hreported
          exact (startSend_notices _ _).trans (hreport w _)
      | stop | probe => exact w.startSend_notices _
      | deliver | acknowledge | cutOff => exact w.setInbox_notices _ _
      | overhear | drop => exact (hreport _ _).trans (w.setInbox_notices _ _)
      | pinged => exact (hreport _ _).trans (w.note_notices rfl)
      | lose => exact (hreport _ _).trans (w.release_notices _)
      | closed => exact w.note_notices rfl
      | failClose => exact hreport w _
      | hangUp => exact notices_overlooks.hangUp w (fun w => w.release_notices _) _
      | accept | refuse | hang | giveUpHanging | connect | lapse | idle | failPing | giveUpPing
      | awaitPing | awaitClose => rfl
      | _ => cases ha

theorem runSession_notices (epoch : UInt64) (value : Value) (below : List Call) :
    (w.runSession epoch value below).1.notices = w.notices := by
  cases htask : w.task? epoch with
  | none => rw [runSession_absent htask]
  | some task =>
      exact (notices_overlooks.runSession w htask value below).trans
        (w.stepSession_notices task.session task.activity value)

theorem perform_notices (a : Action) : (w.perform a).1.notices = w.notices :=
  notices_overlooks_callbacks.perform w (fun _ => notices_overlooks.connect w)
    (fun _ => notices_overlooks.disconnect w)
    fun _ _ _ _ => notices_overlooks.receive w fun _ _ => rfl

/-- Nobody tells the notifier anything but who calls it. -/
theorem step_notices (t : Thread) :
    (w.step t).1.notices = (Call.heard t.calls.head?).foldl Notices.tell w.notices := by
  obtain ⟨calls, value⟩ := t
  cases calls with
  | nil => rfl
  | cons c calls =>
    cases c with
    | session epoch => exact w.runSession_notices epoch value calls
    | observer o next =>
        cases o with
        | notifier => exact w.callObserver_notices next
        | scripted name => exact notices_overlooks_callbacks.callObserver w next name
    | _ =>
        exact notices_overlooks.step w (fun epoch hhead => by cases hhead)
          (fun a _ _ => w.perform_notices a)
          (fun e i _ _ _ => notices_overlooks_callbacks.callHandler w e i)
          (fun o next hhead => by cases hhead) fun _ calls _ _ => notices_overlooks.unwind w calls

end World

/-! ## Runs -/

namespace Pool

/-- The state that the notifier is told with a move. -/
def heard (p : Pool) (m : Move) : List ConnectionState := Call.heard (p.call? m)

variable {p : Pool}

theorem move_notices (m : Move) :
    (p.move m).world.notices = (p.heard m).foldl Notices.tell p.world.notices := by
  rcases World.notices_overlooks.move p m with ⟨hcall, hmove⟩ | ⟨t, _, hcall, hmove⟩
  · rw [heard, hcall]
    exact hmove
  · rw [heard, hcall, hmove]
    exact p.world.step_notices t

/-- What the notifier has shown follows from the states that it has been told. -/
theorem run_notices (moves : List Move) :
    (p.run moves).world.notices = (p.trace heard moves).foldl Notices.tell p.world.notices := by
  induction moves using List.reverseRecOn with
  | nil => rfl
  | append_singleton moves m ih =>
      rw [run_concat, trace_concat, List.foldl_append, ← ih]
      exact move_notices m

end Pool

end EventFeed.Simulation
