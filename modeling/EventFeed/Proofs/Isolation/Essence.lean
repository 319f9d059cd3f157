import EventFeed.Proofs.Interleaving.Shelter
import EventFeed.Proofs.Interleaving.Views

/-! # The connection by itself

The clock, the state and the retries, the sessions and their heartbeats, and what comes in and goes
out on the connections: this is the essence of a world. Subscribers, observers and records are left
out, and of a text that comes in it only matters whether it is the reply to a heartbeat.
-/

namespace EventFeed

/-- A text holds the reply to a heartbeat. -/
def isReply (text : String) : Bool :=
  match Event.parse text with
  | .ok e => e.isPong
  | .error _ => false

/-- An item with the same effect on the connection. -/
def Inbound.essence : Inbound → Inbound
  | .frame (.text s) => .frame (if isReply s then .pong ⟨#[]⟩ else .ping ⟨#[]⟩)
  | item => item

/-- What a client makes of an item, as far as it concerns the connection: events and malformed
frames pass as probes do. -/
def Reading.essence : Reading → Reading
  | .event _ | .malformed _ => .probe 0
  | reading => reading

namespace Inbound

theorem reading_essence (item : Inbound) : item.essence.reading = item.reading.essence := by
  cases item with
  | frame f =>
      cases f with
      | text s =>
          have hreading : (frame (.text s)).reading = Reading.ofText s := rfl
          rw [essence, hreading, Reading.ofText, isReply]
          cases Event.parse s with
          | error e => rfl
          | ok e =>
              dsimp only
              split <;> rfl
      | _ => rfl
  | _ => rfl

@[simp] theorem essence_essence (item : Inbound) : item.essence.essence = item.essence := by
  cases item with
  | frame f =>
      cases f with
      | text s =>
          rw [essence]
          cases isReply s <;> rfl
      | _ => rfl
  | _ => rfl

@[simp] theorem essence_comp_essence : essence ∘ essence = essence := funext essence_essence

end Inbound

/-- The same, with what is left of an item that is read. -/
def Turn.essence : Turn → Turn
  | .read item rest => .read item.essence (rest.map Inbound.essence)
  | turn => turn

/-- The state, the requests and the retries, without observers and what they are to be told. -/
def Lifecycle.essence {Observer : Type} (l : Lifecycle Observer) : Lifecycle Observer where
  state := l.state
  epoch := l.epoch
  owner := l.owner
  attempts := l.attempts

@[simp] theorem Lifecycle.essence_essence {Observer : Type} (l : Lifecycle Observer) :
    l.essence.essence = l.essence := rfl

/-- A change of state by a session depends on the epoch alone. -/
theorem Lifecycle.advance?_essence {Observer : Type} {l l' : Lifecycle Observer} {epoch : UInt64}
    {next : ConnectionState} {attempts : Option UInt32}
    (h : l.advance? epoch next attempts = some l') :
    ∃ changed, l.essence.advance? epoch next attempts = some changed ∧
      changed.essence = l'.essence := by
  obtain ⟨hepoch, rfl⟩ := advance?_eq_some.mp h
  exact ⟨_, advance?_eq_some.mpr ⟨hepoch, rfl⟩, by simp [essence]⟩

namespace Simulation

def OpenScript.essence (script : OpenScript) : OpenScript :=
  { script with actions := [], items := script.items.map Inbound.essence }

def Link.essence (link : Link) : Link := { link with inbox := link.inbox.map Inbound.essence }

/-- A session that has delivered an event serves its connection. -/
def Activity.essence : Activity → Activity
  | .opening script ready limit => .opening script.essence ready limit
  | .answering script limit => .answering script.essence limit
  | .delivered n h _ => .serving n h
  | a => a

def Task.essence (t : Task) : Task := ⟨t.session, t.activity.essence, []⟩

def Progress.essence : Progress → Progress
  | .goOn a _ => .goOn a.essence []
  | .wait a _ => .wait a.essence []
  | .finish => .finish

def Entry.isSent : Entry → Bool
  | .sent .. => true
  | _ => false

def World.essence (w : World) : World where
  scenario := { manager := w.scenario.manager, fallback := w.scenario.fallback.essence }
  now := w.now
  lifecycle := w.lifecycle.essence
  opens := w.opens.map OpenScript.essence
  links := w.links.map Link.essence
  tasks := w.tasks.map Task.essence
  journal := w.journal.filter fun entry => entry.2.isSent

/-- What comes from outside: time passes, the far side sends on a connection, or somebody makes a
request. -/
inductive Input where
  | tick (time : Nat)
  | send (item : Inbound) (link : Option Nat)
  | connect
  | disconnect
  deriving DecidableEq

def Action.input? : Action → Option Input
  | .send item link => some (.send item link)
  | .connect => some .connect
  | .disconnect => some .disconnect
  | _ => none

namespace World

variable (w : World)

/-! ## What does not concern the connection -/

theorem note_essence {e : Entry} (h : e.isSent = false) : (w.note e).essence = w.essence := by
  simp [essence, note, h]

theorem essence_overlooks : OverlooksCallbacks essence where
  turns _ _ _ := rfl
  note w e he := by
    refine w.note_essence ?_
    cases e with
    | sent => cases he
    | _ => rfl
  observers _ _ _ _ := rfl
  callbacks _ _ _ _ := rfl

@[simp] theorem report_essence (r : LogRecord) : (w.report r).essence = w.essence :=
  essence_overlooks.report w r

@[simp] theorem wakeOwner_essence : w.wakeOwner.essence = w.essence :=
  essence_overlooks.wakeOwner w

theorem callObserver_essence (next : ConnectionState) (o : ObserverId) :
    (w.callObserver next o).1.essence = w.essence := by
  cases o with
  | notifier =>
      exact essence_overlooks.callNotifier w next (fun _ _ => rfl) fun w _ => w.note_essence rfl
  | scripted name => exact essence_overlooks.callObserver w next name

theorem perform_essence {a : Action} (h : a.input? = none) :
    (w.perform a).1.essence = w.essence := by
  refine essence_overlooks.perform w ?_ ?_ ?_
  all_goals
    intros
    subst a
    cases h

/-- A step that is none of a session, and with which nothing comes from outside. -/
theorem step_essence {t : Thread} (hsecure : Secure t.calls)
    (hsession : ∀ epoch, t.calls.head? ≠ some (.session epoch))
    (hinput : ∀ a ∈ Call.performed t.calls.head?, a.input? = none) :
    (w.step t).1.essence = w.essence := by
  refine essence_overlooks.step w hsession (fun a rest hhead => ?_)
    (fun e i _ _ _ => essence_overlooks.callHandler w e i)
    (fun o next _ => w.callObserver_essence next o) fun c calls hcalls hbreaks => ?_
  · rw [hhead] at hinput
    exact w.perform_essence (hinput a (List.mem_singleton_self a))
  · rw [hcalls] at hsecure
    exact essence_overlooks.unwind w (hsecure.sheltered_of_mayBreak hbreaks)

end World

end Simulation

end EventFeed
