import EventFeed.Proofs.Interleaving.Step

/-! # Views of a world

A view tells of some part of a world. What a step does to the other parts is no concern of the view,
whatever part it tells of. There are three kinds of views here: those that overlook what is written
down in passing, which all of them do, those that overlook the manager, and those that overlook
subscriptions and callbacks.
-/

namespace EventFeed.Simulation

/-- Whether something goes out: a frame, or a notification. -/
def Entry.goesOut : Entry → Bool
  | .sent .. | .notified _ => true
  | _ => false

/-- Whether a session at an activity opens, uses or lets go of a connection. -/
def Activity.handlesLink : Activity → Bool
  | .answering .. | .accepted _ | .serving .. | .pinging .. | .losing .. | .closing ..
  | .hangingUp .. => true
  | _ => false

/-- A view that tells neither whose turn it is, nor what the journal holds besides that which goes
out, nor which observers there are and what they are yet to be told. -/
structure Overlooks {α : Type} (view : World → α) : Prop where
  turns : ∀ (w : World) (queue : List UInt64) (again : Bool),
    view { w with queue, again } = view w
  note : ∀ (w : World) {e : Entry}, e.goesOut = false → view (w.note e) = view w
  observers : ∀ (w : World) (observers : List ObserverId) (pending : List Transition)
    (draining : Bool),
    view { w with lifecycle := { w.lifecycle with observers, pending, draining } } = view w

/-- A view that tells nothing of the clock, the state of the connection, and the sessions. -/
structure OverlooksManager {α : Type} (view : World → α) : Prop extends Overlooks view where
  manager : ∀ (w : World) (now : Nat) (lifecycle : Lifecycle ObserverId) (opens : List OpenScript)
    (tasks : List Task) (alarmCount : Nat),
    view { w with now, lifecycle, opens, tasks, alarmCount } = view w

/-- A view that tells neither what is subscribed nor how often callbacks have been called. -/
structure OverlooksCallbacks {α : Type} (view : World → α) : Prop extends Overlooks view where
  callbacks : ∀ (w : World) (registry : Registry HandlerId)
    (handlerCalls observerCalls : List String),
    view { w with registry, handlerCalls, observerCalls } = view w

variable {α : Type} {view : World → α} (w : World)

namespace Overlooks

variable (h : Overlooks view)

include h

theorem report (r : LogRecord) : view (w.report r) = view w := by
  unfold World.report
  split
  · exact h.note w rfl
  · rfl

theorem enqueue (epoch : UInt64) : view (w.enqueue epoch) = view w := by
  unfold World.enqueue
  split
  · exact h.turns w _ w.again
  · rfl

theorem wake (epoch : UInt64) : view (w.wake epoch) = view w := by
  unfold World.wake
  split
  · exact h.turns w w.queue true
  · exact h.enqueue w epoch

theorem wakeOwner : view w.wakeOwner = view w := by
  unfold World.wakeOwner
  split
  · exact h.wake w _
  · rfl

theorem wakeAll (due : List (UInt64 × Alarm)) :
    view (due.foldl (fun w a => w.wake a.1) w) = view w := by
  induction due generalizing w with
  | nil => rfl
  | cons a due ih => exact (ih _).trans (h.wake w a.1)

theorem observe (o : ObserverId) : view (w.observe o) = view w := by
  unfold World.observe
  split
  next hl =>
    obtain ⟨_, rfl⟩ := Lifecycle.addObserver?_eq_some.mp hl
    exact h.observers w _ w.lifecycle.pending w.lifecycle.draining
  next => exact h.report w _

theorem unobserve (o : ObserverId) :
    view { w with lifecycle := w.lifecycle.removeObserver o } = view w :=
  h.observers w _ w.lifecycle.pending w.lifecycle.draining

/-- What comes in on a connection matters as far as its inbox does. -/
theorem receive {item : Inbound} {n : Nat}
    (hinbox : ∀ link, w.link? n = some link →
      view (w.setLink n { link with inbox := link.inbox ++ [item] }) = view w) :
    view (w.receive item n).2 = view w := by
  unfold World.receive
  split
  next link hlink =>
    split
    · rfl
    · dsimp only
      split
      · exact (h.wake _ _).trans (hinbox link hlink)
      · exact hinbox link hlink
  next => rfl

theorem failHandler (event : Event) (message : String) (calls : List Call) :
    view (w.failHandler event message calls).1 = view w := by
  unfold World.failHandler
  split
  · exact h.report w _
  · rfl

/-- A failure that does not get as far as a session. -/
theorem unwind {calls : List Call} (hcalls : sheltered calls = true) :
    view (w.unwind calls).1 = view w := by
  induction calls with
  | nil => rfl
  | cons c calls ih =>
      cases c with
      | handlers e rest o => exact h.report w _
      | observers next rest => exact h.report w _
      | session epoch => cases hcalls
      | _ => exact ih hcalls

theorem callNotifier (next : ConnectionState)
    (hnotifier : ∀ (w : World) (notifier : StateNotifier), view { w with notifier } = view w)
    (hnotified : ∀ (w : World) (n : Notification), view (w.note (.notified n)) = view w) :
    view (w.callObserver next .notifier).1 = view w := by
  simp only [World.callObserver]
  split
  · exact (h.report _ _).trans ((hnotified _ _).trans (hnotifier w _))
  · exact hnotifier w _

/-- A step that is none of a session matters as far as the action or the callback does that begins
with it, or the failure of one. -/
theorem step {t : Thread} (hsession : ∀ epoch, t.calls.head? ≠ some (.session epoch))
    (hperform : ∀ a rest, t.calls.head? = some (.actions (a :: rest)) →
      view (w.perform a).1 = view w)
    (hhandler : ∀ e i rest o, t.calls.head? = some (.handlers e (i :: rest) o) →
      view (w.callHandler e i).1 = view w)
    (hobserver : ∀ o next, t.calls.head? = some (.observer o next) →
      view (w.callObserver next o).1 = view w)
    (hunwind : ∀ c calls, t.calls = c :: calls → c.mayBreak = true →
      view (w.unwind calls).1 = view w) : view (w.step t).1 = view w := by
  obtain ⟨calls, value⟩ := t
  cases calls with
  | nil => rfl
  | cons c calls =>
    cases c with
    | actions list =>
        cases list with
        | nil => rfl
        | cons a rest => exact hperform a rest rfl
    | yielded a =>
        simp only [World.step]
        split
        · rfl
        · exact h.note w rfl
    | deliver e =>
        simp only [World.step]
        split
        · exact h.report w _
        · rfl
    | handlers e list o =>
        cases list with
        | nil => exact h.report w _
        | cons i rest => exact hhandler e i rest o rfl
    | handled e ending =>
        cases ending with
        | ok => rfl
        | failed message => exact h.failHandler w e message calls
        | broken => exact hunwind _ _ rfl rfl
    | flush =>
        simp only [World.step, Lifecycle.enterDrain?]
        cases w.lifecycle.draining with
        | true => rfl
        | false => exact h.observers w w.lifecycle.observers w.lifecycle.pending true
    | drain =>
        simp only [World.step, Lifecycle.takeTransition]
        cases w.lifecycle.pending with
        | nil => exact h.observers w w.lifecycle.observers [] false
        | cons t rest =>
            exact (h.report _ _).trans
              (h.observers w w.lifecycle.observers rest w.lifecycle.draining)
    | observers next list => cases list <;> rfl
    | observer o next => exact hobserver o next rfl
    | observed breaks =>
        cases breaks with
        | false => rfl
        | true => exact hunwind _ _ rfl rfl
    | session epoch => exact absurd rfl (hsession epoch)

/-! ## Sessions -/

theorem reportUnheard (type : EventType) (value : Value) :
    view (w.reportUnheard type value) = view w := by
  unfold World.reportUnheard
  split
  · split
    · exact h.report w _
    · rfl
  · rfl

theorem hangUp {n : Nat} (hrelease : ∀ w, view (World.release w n) = view w) (requested : Bool) :
    view (w.hangUp n requested).1 = view w := by
  have hnote : view (w.note (.sinkClosed n)) = view w := h.note w rfl
  simp only [World.hangUp]
  split <;> split <;> simp only [h.report, hrelease, hnote]

end Overlooks

namespace OverlooksManager

variable (h : OverlooksManager view)

include h

theorem removeTask (epoch : UInt64) : view (w.removeTask epoch) = view w :=
  h.manager w w.now w.lifecycle w.opens _ w.alarmCount

theorem setTask (task : Task) : view (w.setTask task) = view w :=
  h.manager w w.now w.lifecycle w.opens _ w.alarmCount

theorem setAlarms (task : Task) (wanted : List (AlarmKind × Nat)) :
    view (w.setAlarms task wanted) = view w :=
  h.manager w w.now w.lifecycle w.opens _ _

theorem changeLifecycle (l : Lifecycle ObserverId) : view { w with lifecycle := l } = view w :=
  h.manager w w.now l w.opens w.tasks w.alarmCount

theorem spawn (epoch : UInt64) : view (w.spawn epoch) = view w :=
  (h.turns { w with tasks := w.tasks ++ [_] } _ w.again).trans
    (h.manager w w.now w.lifecycle w.opens _ w.alarmCount)

theorem connect : view w.connect.1 = view w := by
  unfold World.connect
  split
  · exact h.report w _
  · exact (h.spawn _ _).trans ((h.changeLifecycle _ _).trans (h.wakeOwner w))

theorem disconnect : view w.disconnect.1 = view w :=
  (h.changeLifecycle _ _).trans (h.wakeOwner w)

theorem unwind (calls : List Call) : view (w.unwind calls).1 = view w := by
  induction calls generalizing w with
  | nil => rfl
  | cons c calls ih =>
      cases c with
      | handlers e rest o => exact h.report w _
      | observers next rest => exact h.report w _
      | session epoch => exact (ih _).trans (h.removeTask w epoch)
      | _ => exact ih w

theorem ring (time : Nat) : view (w.ring time) = view w :=
  (h.wakeAll _ _).trans (h.manager w _ w.lifecycle w.opens _ w.alarmCount)

/-! ## Sessions -/

theorem takeOpen : view w.takeOpen = view w :=
  (h.note { w with opens := w.opens.tail } rfl).trans
    (h.manager w w.now w.lifecycle _ w.tasks w.alarmCount)

/-- A session that does not handle a connection. -/
theorem stepSession (s : Session) {a : Activity} (value : Value) (ha : a.handlesLink = false) :
    view (w.stepSession s a value).1 = view w := by
  have hcomes := w.stepSession_comes s a value
  generalize w.stepSession s a value = r at hcomes ⊢
  cases hcomes with
  | answer | expire | await | wakeUp | waitOn | done => rfl
  | start | greet | stopOpening | fallBack | delay | stopWaiting => exact h.report w _
  | tooLateToRetreat | tooLateToResume => exact h.report w _
  | tooLateToGiveUp => exact (h.report _ _).trans (h.report w _)
  | call => exact h.takeOpen w
  | stopCalling => exact (h.report _ _).trans (h.takeOpen w)
  | retreat | resume => exact h.changeLifecycle w _
  | giveUp => exact (h.changeLifecycle _ _).trans (h.report w _)
  | serveOn => exact h.reportUnheard w _ _
  | _ => cases ha

/-- Of a session that goes on, its own step matters. -/
theorem runSession {epoch : UInt64} {task : Task} (htask : w.task? epoch = some task)
    (value : Value) (below : List Call) :
    view (w.runSession epoch value below).1 =
      view (w.stepSession task.session task.activity value).1 := by
  simp only [World.runSession, htask]
  obtain ⟨w', s, progress⟩ := w.stepSession task.session task.activity value
  cases progress with
  | goOn a calls => exact h.setTask w' _
  | wait a alarms => exact h.setAlarms w' _ _
  | finish => exact h.removeTask w' epoch

/-- With a move, a thread takes a step, or no call goes on and nothing happens. -/
theorem move (p : Pool) (m : Move) :
    (p.call? m = none ∧ view (p.move m).world = view p.world) ∨
      ∃ t ∈ p.threads, p.call? m = t.calls.head? ∧ (p.move m).world = (p.world.step t).1 := by
  cases m with
  | step i =>
      rcases p.move_step i with ⟨hcall, hmove⟩ | ⟨before, t, after, hthreads, hcall, hmove⟩
      · exact .inl ⟨hcall, by rw [hmove]⟩
      · exact .inr ⟨t, by simp [hthreads], hcall, by rw [hmove]⟩
  | poll epoch =>
      refine .inl ⟨rfl, ?_⟩
      simp only [Pool.move]
      split <;> rfl
  | tick time => exact .inl ⟨rfl, h.ring p.world time⟩
  | _ => exact .inl ⟨rfl, rfl⟩

end OverlooksManager

/-! ## Subscriptions and callbacks -/

namespace OverlooksCallbacks

variable (h : OverlooksCallbacks view)

include h

theorem changeRegistry (type : EventType) (change : Registry.Change × Registry HandlerId) :
    view (w.changeRegistry type change) = view w := by
  have hregistry := h.callbacks w change.2 w.handlerCalls w.observerCalls
  unfold World.changeRegistry
  dsimp only
  split
  · exact (h.report _ _).trans hregistry
  · exact hregistry

theorem callHandler (event : Event) (i : HandlerId) :
    view (w.callHandler event i).1 = view w := by
  cases i with
  | eventLogger => exact h.report w _
  | scripted name =>
      exact (h.note _ rfl).trans (h.callbacks w w.registry _ w.observerCalls)

theorem callObserver (next : ConnectionState) (name : String) :
    view (w.callObserver next (.scripted name)).1 = view w := by
  have hnote := h.note w
    (e := .observer name next w.lifecycle.state w.lifecycle.attempts) rfl
  simp only [World.callObserver]
  split
  · exact (h.callbacks _ w.registry w.handlerCalls _).trans hnote
  · exact hnote

/-- An action matters as far as a request or something that comes in does. -/
theorem perform {a : Action} (hconnect : a = .connect → view w.connect.1 = view w)
    (hdisconnect : a = .disconnect → view w.disconnect.1 = view w)
    (hreceive : ∀ item link n, a = .send item link → view (w.receive item n).2 = view w) :
    view (w.perform a).1 = view w := by
  cases a with
  | subscribe name i | unsubscribe name i =>
      simp only [World.perform]
      split
      · rfl
      · exact h.changeRegistry w _ _
  | count name | dispatch raw =>
      simp only [World.perform]
      split <;> rfl
  | connect => exact hconnect rfl
  | disconnect => exact hdisconnect rfl
  | observe o => exact h.observe w o
  | unobserve o => exact h.unobserve w o
  | notify o state => cases state <;> rfl
  | send item link => exact hreceive item link _ rfl

end OverlooksCallbacks

end EventFeed.Simulation
