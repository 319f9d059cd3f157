import EventFeed.Simulation.World

/-! # Threads of control

A thread of control is a stack of calls: what is on top goes on, and what is below goes on when that
has returned. Each step of a thread is one atomic section of the manager together with what can be
seen from outside only as part of it, so steps of several threads may come in any order.

A callback that breaks off takes with it the calls below it up to the one that called it, which
notes the failure and goes on.
-/

namespace EventFeed.Simulation

inductive Call where
  /-- The rest of what a callback does. -/
  | actions (rest : List Action)
  /-- Takes note of what an action has yielded. -/
  | yielded (action : Action)
  | deliver (event : Event)
  /-- The rest of a delivery. -/
  | handlers (event : Event) (rest : List HandlerId) (outcome : DispatchOutcome)
  /-- A handler has done what it does, and ends. -/
  | handled (event : Event) (ending : Ending)
  | flush
  /-- The drainer is to take the next change. -/
  | drain
  /-- The rest of the observers who are to be told of a change. -/
  | observers (next : ConnectionState) (rest : List ObserverId)
  | observer (id : ObserverId) (next : ConnectionState)
  /-- An observer has done what it does, and ends. -/
  | observed (breaks : Bool)
  | session (epoch : UInt64)

structure Thread where
  calls : List Call := []
  /-- What the call that returned last has yielded. -/
  value : Value := .none

namespace World

def connect (w : World) : World × List Call :=
  match w.lifecycle.connect? with
  | none => (w.report (Report.connectIgnored w.lifecycle.state), [])
  | some l => ({ w.wakeOwner with lifecycle := l }.spawn l.epoch, [.flush])

def disconnect (w : World) : World × List Call :=
  ({ w.wakeOwner with lifecycle := w.lifecycle.disconnect }, [.flush])

def observe (w : World) (o : ObserverId) : World :=
  match w.lifecycle.addObserver? o with
  | some l => { w with lifecycle := l }
  | none => w.report Report.observerKnown

/-- Applies a change to the subscriptions of a type and reports it. -/
def changeRegistry (w : World) (type : EventType)
    (change : Registry.Change × Registry HandlerId) : World :=
  let w := { w with registry := change.2 }
  match Report.subscription type change.1 with
  | some r => w.report r
  | none => w

/-- Begins an action: what it yields, and the calls that it leads to. -/
def perform (w : World) (action : Action) : World × Value × List Call :=
  let withType (name : String) (k : EventType → World × Value) : World × Value × List Call :=
    match EventType.parse name with
    | .error e => (w, .badType e, [])
    | .ok t => let (w, v) := k t; (w, v, [])
  match action with
  | .subscribe name h =>
    withType name fun t => (w.changeRegistry t (w.registry.subscribe t h), .none)
  | .unsubscribe name h =>
    withType name fun t => (w.changeRegistry t (w.registry.unsubscribe t h), .none)
  | .count name => withType name fun t => (w, .count (w.registry.count t))
  | .dispatch raw =>
    match Event.parse raw with
    | .error e => (w, .badFrame e, [])
    | .ok e => (w, .none, [.deliver e])
  | .connect => let (w, calls) := w.connect; (w, .none, calls)
  | .disconnect => let (w, calls) := w.disconnect; (w, .none, calls)
  | .observe o => (w.observe o, .none, [])
  | .unobserve o => ({ w with lifecycle := w.lifecycle.removeObserver o }, .none, [])
  | .notify o (.ok s) => (w, .none, [.observer o s])
  | .notify _ (.error e) => (w, .badState e, [])
  | .send item link =>
    let (accepted, w) := w.receive item (link.getD (w.links.length - 1))
    (w, .flag accepted, [])

def callHandler (w : World) (event : Event) : HandlerId → World × List Call
  | .eventLogger => (w.report (Report.registryEvent event), [])
  | .scripted name =>
    let script := w.scenario.handler name
    let calls := w.handlerCalls.count name
    let w := { w with handlerCalls := name :: w.handlerCalls }.note (.handler name event)
    let actions := if calls < script.runs then script.actions else []
    (w, [.actions actions, .handled event script.ending])

def callObserver (w : World) (next : ConnectionState) : ObserverId → World × List Call
  | .notifier =>
    let (shown, notifier) := w.notifier.notify next
    let w := { w with notifier }
    match shown with
    | some n => ((w.note (.notified n)).report (Report.notification n), [])
    | none => (w, [])
  | .scripted name =>
    let script := w.scenario.observer name
    let w := w.note (.observer name next w.lifecycle.state w.lifecycle.attempts)
    if (script.only.map (· == next.name)).getD true then
      let calls := w.observerCalls.count name
      let w := { w with observerCalls := name :: w.observerCalls }
      (w, [.actions (if calls < script.runs then script.actions else []), .observed script.breaks])
    else (w, [])

/-- Breaks off: the calls go down to the nearest one that takes note of the failure of a callback. A
session that nothing saves is gone. -/
def unwind (w : World) : List Call → World × List Call
  | [] => (w, [])
  | .handlers e rest o :: calls =>
    (w.report (Report.handlerBroke e.type),
      .handlers e rest { o with failed := o.failed + 1 } :: calls)
  | .observers next rest :: calls =>
    (w.report (Report.observerBroke next), .observers next rest :: calls)
  | .session epoch :: calls => unwind (w.removeTask epoch) calls
  | _ :: calls => unwind w calls

/-- A handler reports an error to the delivery that called it. -/
def failHandler (w : World) (event : Event) (message : String) : List Call → World × List Call
  | .handlers e rest o :: calls =>
    (w.report (Report.handlerFailed event.type message),
      .handlers e rest { o with failed := o.failed + 1 } :: calls)
  | calls => (w, calls)

end World

end EventFeed.Simulation
