import EventFeed.Simulation.Run

/-! # The watching program in the simulated world

The program has one manager, which it builds when it needs it. Starting registers the program's own
observer and subscribers and connects; starting again registers nothing twice. Stopping disconnects.
-/

namespace EventFeed.Simulation

structure Watcher where
  world : World
  built : Bool := false

namespace Watcher

/-- Builds the manager if it does not exist; a failure leaves nothing behind but a record. -/
def realtime (a : Watcher) (insideRuntime : Bool) : Except ManagerError Unit × Watcher :=
  if a.built then (.ok (), a)
  else
    let w := a.world.report Report.sharing
    match Manager.build w.scenario.manager.config insideRuntime with
    | .error e => (.error e, ⟨w, false⟩)
    | .ok m =>
      let w := { w with scenario := { w.scenario with manager := m } }
      (.ok (), ⟨w.report (Report.created m.endpoint), true⟩)

/-- What is registered with the manager before it connects. -/
def registrations : List Action :=
  .observe .notifier :: watchedTypes.map fun t => .subscribe t.name .eventLogger

def actAll (w : World) (actions : List Action) : World := actions.foldl (fun w a => (w.act a).1) w

def start (a : Watcher) (insideRuntime : Bool) : Except ManagerError Unit × Watcher :=
  match a.realtime insideRuntime with
  | (.error e, a) => (.error e, a)
  | (.ok (), a) =>
    let w := actAll a.world registrations
    let w := w.report (Report.connecting w.scenario.manager.config.endpoint)
    (.ok (), { a with world := actAll w [.connect] })

def stop (a : Watcher) : Watcher :=
  if a.built then
    let w := a.world.report (Report.disconnecting a.world.scenario.manager.config.endpoint)
    { a with world := actAll w [.disconnect] }
  else a

/-- The number of handlers of each type that is watched. -/
def counts (a : Watcher) : List (EventType × Nat) :=
  watchedTypes.map fun t => (t, a.world.registry.count t)

end Watcher

end EventFeed.Simulation
