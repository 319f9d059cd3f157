import EventFeed.Proofs.Watch.Records
import EventFeed.Proofs.Watch.Roster

/-! # The program wires itself once

The program is started and stopped as often as anybody likes. In between, and at the same time on
other threads, whoever has got hold of the manager registers subscribers and observers of their own,
and sessions take their turns. However all this is interleaved, the program's own subscriber and
observer are registered once, from the first start that succeeds.
-/

namespace EventFeed.Simulation

namespace Watcher

/-- The actions that a start performs, those included that its callbacks perform. -/
def startPerformed (a : Watcher) (insideRuntime : Bool) : List Action :=
  match a.realtime insideRuntime with
  | (.error _, _) => []
  | (.ok (), a) =>
    let w := actAll a.world registrations
    let w := w.report (Report.connecting w.scenario.manager.config.endpoint)
    allPerformed a.world registrations ++ allPerformed w [.connect]

/-- The actions that a stop performs, those included that its callbacks perform. -/
def stopPerformed (a : Watcher) : List Action :=
  if a.built then
    let w := a.world.report (Report.disconnecting a.world.scenario.manager.config.endpoint)
    allPerformed w [.disconnect]
  else []

end Watcher

/-- The program, and the threads of whoever else has got hold of its manager. -/
structure Program where
  watcher : Watcher
  threads : List Thread := []

/-- What can happen to the program next. -/
inductive Happening where
  /-- Somebody asks for the manager, which is built if it does not exist. -/
  | ask (insideRuntime : Bool)
  /-- The program is started, in one go. A start on a thread of its own is a thread that performs
  what a start registers and connects. -/
  | start (insideRuntime : Bool)
  | stop
  /-- The threads and the clock, which have nothing to do before there is a manager. -/
  | move (m : Move)

namespace Program

def initial (scenario : Scenario) (opens : List OpenScript) : Program where
  watcher := { world := .start scenario opens }

def world (p : Program) : World := p.watcher.world

def pool (p : Program) : Pool := ⟨p.world, p.threads⟩

def happen (p : Program) : Happening → Program
  | .ask insideRuntime => { p with watcher := (p.watcher.realtime insideRuntime).2 }
  | .start insideRuntime => { p with watcher := (p.watcher.start insideRuntime).2 }
  | .stop => { p with watcher := p.watcher.stop }
  | .move m =>
    if p.watcher.built then ⟨⟨(p.pool.move m).world, true⟩, (p.pool.move m).threads⟩ else p

def run (p : Program) (happenings : List Happening) : Program := happenings.foldl happen p

/-- The actions that are performed with what happens, in their order. -/
def performed (p : Program) : Happening → List Action
  | .ask _ => []
  | .start insideRuntime => p.watcher.startPerformed insideRuntime
  | .stop => p.watcher.stopPerformed
  | .move m => if p.watcher.built then p.pool.performed m else []

/-- All actions that are performed, in their order. -/
def trace : Program → List Happening → List Action
  | _, [] => []
  | p, h :: rest => p.performed h ++ (p.happen h).trace rest

variable {p : Program} {happenings later : List Happening}

theorem run_append : p.run (happenings ++ later) = (p.run happenings).run later :=
  List.foldl_append

theorem run_concat (h : Happening) : p.run (happenings ++ [h]) = (p.run happenings).happen h :=
  run_append

theorem happen_move (hbuilt : p.watcher.built = true) (m : Move) :
    (p.happen (.move m)).pool = p.pool.move m := by
  rw [happen, if_pos hbuilt]
  rfl

theorem trace_append :
    p.trace (happenings ++ later) = p.trace happenings ++ (p.run happenings).trace later := by
  induction happenings generalizing p with
  | nil => rfl
  | cons h happenings ih => rw [List.cons_append, trace, trace, ih, List.append_assoc]; rfl

end Program

/-! ## What the calls of the program do -/

namespace Watcher

variable (a : Watcher) (insideRuntime : Bool)

/-- The manager is there, or it is built, or nothing is left behind but a record. -/
theorem realtime_cases :
    (∃ e, a.built = false ∧
      a.realtime insideRuntime = (.error e, ⟨a.world.report Report.sharing, false⟩)) ∨
    ∃ w, a.world.Becomes [] w ∧ a.realtime insideRuntime = (.ok (), ⟨w, true⟩) := by
  obtain ⟨world, built⟩ := a
  cases built with
  | true => exact .inr ⟨world, .refl world, rfl⟩
  | false =>
      cases hbuild : Manager.build (world.report Report.sharing).scenario.manager.config
        insideRuntime with
      | error e => exact .inl ⟨e, rfl, by simp [realtime, hbuild]⟩
      | ok m =>
          have hshared := world.report_becomes Report.sharing
          refine .inr ⟨_, ?_, by simp [realtime, hbuild]; rfl⟩
          exact ⟨(World.report_becomes _ _).registry.trans hshared.registry,
            (World.report_becomes _ _).observers.trans hshared.observers⟩

/-- A start fails if there is no manager and none can be built, and then it does nothing else. One
that succeeds has performed what it registers. -/
theorem start_cases :
    (∃ e, a.built = false ∧ a.startPerformed insideRuntime = [] ∧
      a.start insideRuntime = (.error e, ⟨a.world.report Report.sharing, false⟩)) ∨
    ∃ w, a.world.Becomes (a.startPerformed insideRuntime) w ∧
      registrations ⊆ a.startPerformed insideRuntime ∧
      a.start insideRuntime = (.ok (), ⟨w, true⟩) := by
  unfold start startPerformed
  rcases a.realtime_cases insideRuntime with ⟨e, hbuilt, hask⟩ | ⟨w, hw, hask⟩
  · rw [hask]
    exact .inl ⟨e, hbuilt, rfl, rfl⟩
  · rw [hask]
    dsimp only
    have hregistered := hw.trans (actAll_becomes w registrations)
    have hreported := hregistered.trans (World.report_becomes _
      (Report.connecting (actAll w registrations).scenario.manager.config.endpoint))
    have hconnected := hreported.trans (actAll_becomes _ [.connect])
    rw [List.nil_append, List.append_nil] at hconnected
    refine .inr ⟨_, hconnected, fun b hb => ?_, rfl⟩
    exact List.mem_append_left _ (subset_allPerformed w registrations hb)

theorem stop_cases :
    (a.built = false ∧ a.stopPerformed = [] ∧ a.stop = a) ∨
    ∃ w, a.world.Becomes a.stopPerformed w ∧ a.stop = ⟨w, true⟩ := by
  obtain ⟨world, built⟩ := a
  cases built with
  | false => exact .inl ⟨rfl, rfl, rfl⟩
  | true =>
      have hreported := world.report_becomes
        (Report.disconnecting world.scenario.manager.config.endpoint)
      exact .inr ⟨_, hreported.trans (actAll_becomes _ [.disconnect]), rfl⟩

end Watcher

namespace Program

/-! ## Runs -/

/-- As long as the manager has not been built, nothing is registered with it, and there is nobody
who could do so. -/
structure Sound (p : Program) : Prop where
  shaped : p.pool.Shaped
  bare : p.watcher.built = false →
    p.world.registry = {} ∧ p.world.lifecycle = {} ∧ p.threads = []

variable {scenario : Scenario} {opens : List OpenScript} {p : Program} {happenings : List Happening}

theorem initial_sound : (initial scenario opens).Sound where
  shaped := List.forall_mem_nil _
  bare _ := ⟨rfl, rfl, rfl⟩

/-- A call that builds no manager leaves everything as it was. -/
theorem Sound.unbuilt (hsound : p.Sound) (hbuilt : p.watcher.built = false) (r : LogRecord) :
    ({ p with watcher := ⟨p.world.report r, false⟩ } : Program).Sound where
  shaped := hsound.shaped
  bare _ := by
    obtain ⟨hregistry, hlifecycle, hthreads⟩ := hsound.bare hbuilt
    have hreport := p.world.report_becomes r
    exact ⟨hreport.registry.trans hregistry, (p.world.report_same r).lifecycle.trans hlifecycle,
      hthreads⟩

theorem Sound.built (hsound : p.Sound) (w : World) :
    ({ p with watcher := ⟨w, true⟩ } : Program).Sound where
  shaped := hsound.shaped
  bare h := Bool.noConfusion h

/-- Whatever happens, what is registered afterwards is what the actions that are performed make of
what was registered before. -/
theorem happen_keeps (hsound : p.Sound) (h : Happening) :
    (p.happen h).Sound ∧ p.world.Becomes (p.performed h) (p.happen h).world := by
  cases h with
  | ask insideRuntime =>
      rcases p.watcher.realtime_cases insideRuntime with ⟨e, hbuilt, hask⟩ | ⟨w, hw, hask⟩
      · simp only [happen, performed, hask]
        exact ⟨hsound.unbuilt hbuilt _, World.report_becomes _ _⟩
      · simp only [happen, performed, hask]
        exact ⟨hsound.built w, hw⟩
  | start insideRuntime =>
      rcases p.watcher.start_cases insideRuntime with
        ⟨e, hbuilt, hnone, hstart⟩ | ⟨w, hw, _, hstart⟩
      · simp only [happen, performed, hstart, hnone]
        exact ⟨hsound.unbuilt hbuilt _, World.report_becomes _ _⟩
      · simp only [happen, performed, hstart]
        exact ⟨hsound.built w, hw⟩
  | stop =>
      rcases p.watcher.stop_cases with ⟨hbuilt, hnone, hstop⟩ | ⟨w, hw, hstop⟩
      · simp only [happen, performed, hstop, hnone]
        exact ⟨hsound, .refl _⟩
      · simp only [happen, performed, hstop]
        exact ⟨hsound.built w, hw⟩
  | move m =>
      simp only [happen, performed]
      split
      next =>
        exact ⟨⟨Pool.run_shaped [m] hsound.shaped, fun h => Bool.noConfusion h⟩,
          Pool.move_becomes hsound.shaped m⟩
      next => exact ⟨hsound, .refl _⟩

theorem run_keeps (hsound : p.Sound) :
    (p.run happenings).Sound ∧ p.world.Becomes (p.trace happenings) (p.run happenings).world := by
  induction happenings generalizing p with
  | nil => exact ⟨hsound, .refl _⟩
  | cons h happenings ih =>
      obtain ⟨hnext, hbecomes⟩ := happen_keeps hsound h
      obtain ⟨hlast, hlater⟩ := ih hnext
      exact ⟨hlast, hbecomes.trans hlater⟩

/-- The program may be started and stopped any number of times, with all sorts of things happening
in between and meanwhile. Nobody else subscribes or unsubscribes the event logger or removes the
notifier. Then, once a start has succeeded, or everything that a start registers has been registered
on whatever threads:

* the event logger is subscribed to each type of the registry once, and the notifier observes the
  connection once;
* every frame with an event of the registry that a session reads is delivered, and its delivery, as
  every delivery of such an event, makes one record of it: never more, and exactly one by the time
  when it returns, which it does when its thread is let alone.

No delivery of an event of another type makes a record, and each record is made at once. A stop
changes nothing as long as there is no manager, and a start that fails leaves no manager, nobody
registered and nobody at work. -/
theorem starts_wire_once (scenario : Scenario) (opens : List OpenScript)
    (happenings : List Happening)
    (hothers : ∀ a ∈ (initial scenario opens).trace happenings, a.interferes = false) :
    let p := (initial scenario opens).run happenings
    (∀ before insideRuntime after, happenings = before ++ .start insideRuntime :: after →
      (((initial scenario opens).run before).watcher.start insideRuntime).1 = .ok () →
        p.world.Wired) ∧
      (Watcher.registrations ⊆ (initial scenario opens).trace happenings → p.world.Wired) ∧
      (∀ n m raw e, .frame (.text raw) ∈ p.pool.read n m → Event.parse raw = .ok e →
        e.type.isKnown = true → ∃ (i : Nat) (calls : List Call),
          (p.pool.move m).threads[i]? = some ⟨.deliver e :: calls, .none⟩) ∧
      (∀ (i : Nat) (e : Event) (calls : List Call) (value : Value) (later : List Move),
        p.pool.threads[i]? = some ⟨.deliver e :: calls, value⟩ →
        p.pool.Lasts i calls.length (.step i :: later) →
          let records := p.pool.trace (Pool.records i calls.length) (.step i :: later)
          (p.world.Wired → e.type.isKnown = true →
            records <+: [Report.registryEvent e] ∧
              (p.pool.Returned i e calls (.step i :: later) →
                records = [Report.registryEvent e])) ∧
          (e.type.isKnown = false → records = []) ∧
          (∃ k, p.pool.Returned i e calls (.step i :: later ++ List.replicate k (.step i))) ∧
          ∀ q m, ∀ r ∈ Pool.records i calls.length q m, (q.move m).world = q.world.report r) ∧
      (p.watcher.built = false → p.happen .stop = p) ∧
      ∀ insideRuntime e, (p.watcher.start insideRuntime).1 = .error e →
        let q := p.happen (.start insideRuntime)
        q.watcher.built = false ∧ q.world.registry = {} ∧ q.world.lifecycle = {} ∧
          q.threads = [] := by
  intro p
  obtain ⟨hsound, hbecomes⟩ := @run_keeps (initial scenario opens) happenings initial_sound
  have hwired : Watcher.registrations ⊆ (initial scenario opens).trace happenings →
      p.world.Wired := hbecomes.wired rfl rfl hothers
  refine ⟨fun before insideRuntime after hsplit hstart => hwired ?_, hwired,
    fun n m raw e => Pool.deliver_of_read, fun i e calls value later hdeliver hlasts => ?_,
    fun hbuilt => ?_, fun insideRuntime e hfails => ?_⟩
  · rcases ((initial scenario opens).run before).watcher.start_cases insideRuntime with
      ⟨e, _, _, hfails⟩ | ⟨_, _, hall, _⟩
    · rw [hfails] at hstart
      cases hstart
    · rw [hsplit, trace_append]
      intro a ha
      exact List.mem_append_right _ (List.mem_append_left _ (hall ha))
  · obtain ⟨hnomore, hexact⟩ := Pool.records_of_deliver hdeliver hlasts
    refine ⟨fun hw hknown => ?_, fun hunknown => ?_, Pool.exists_returned hdeliver hlasts,
      fun q m r => Pool.world_of_records⟩
    · have hcount : (p.pool.world.registry.handlers e.type).count .eventLogger = 1 :=
        hw.logger e.type hknown
      rw [hcount] at hnomore hexact
      exact ⟨hnomore, hexact⟩
    · have hcount : (p.pool.world.registry.handlers e.type).count .eventLogger = 0 := by
        refine List.count_eq_zero.mpr fun hlogger => ?_
        have hknown := hbecomes.known_of_logger rfl hothers hlogger
        rw [hunknown] at hknown
        cases hknown
      rw [hcount] at hnomore
      exact List.prefix_nil.mp hnomore
  · have hstop : p.watcher.stop = p.watcher := if_neg (by simp [hbuilt])
    rw [happen, hstop]
  · intro q
    have hq : q.watcher.built = false := by
      rcases p.watcher.start_cases insideRuntime with ⟨_, _, _, hstart⟩ | ⟨w, _, _, hstart⟩
      · simp only [q, happen, hstart]
      · rw [hstart] at hfails
        cases hfails
    exact ⟨hq, (happen_keeps hsound _).1.bare hq⟩

/-- The frame with which every connection comes while there is a guest. -/
def guestFrame : String := "\x7b\"type\":\"service.registered\"\x7d"

/-- A guest observes the connection and subscribes to one type, for one call each. -/
def visited : Scenario where
  manager := { config := { endpoint := "ws://[::1]/" } }
  handlers := [("guest", { actions := [.unsubscribe "service.registered" (.scripted "guest")] })]
  observers := [("guest", { actions := [.unobserve (.scripted "guest")] })]
  fallback := { items := [.frame (.text guestFrame)] }

/-- The program is started where there is no event loop, and, when the guest has come, it is started
twice and stopped. -/
def arrival : List Happening :=
  [.start false, .ask true, .move (.begin [.observe (.scripted "guest"),
    .subscribe "service.registered" (.scripted "guest")])] ++
  List.replicate 4 (.move (.step 0)) ++ [.start true, .start true, .stop]

/-- The program is started again, and its session comes to where it can read the frame. -/
def visit : List Happening :=
  arrival ++ .start true :: .move (.poll 3) :: List.replicate 13 (.move (.step 1))

def reading : List Happening := visit ++ [.move (.step 1)]

/-- The moves, after the first, by which the event of the frame is delivered. -/
def visitDelivery : List Move := List.replicate 7 (.step 1)

theorem starts_wire_once_visited :
    (initial visited []).happen .stop = initial visited [] ∧
      ((initial visited []).happen (.start false)).world.registry = {} ∧
      ((initial visited []).run visit).world.Wired ∧
      ∃ e, Event.parse guestFrame = .ok e ∧
        ((initial visited []).run reading).pool.trace (Pool.records 1 1)
          (.step 1 :: visitDelivery) = [Report.registryEvent e] := by
  have hothers : ∀ a ∈ (initial visited []).trace reading, a.interferes = false := by
    decide +kernel
  have hvisit : ∀ a ∈ (initial visited []).trace visit, a.interferes = false := by
    rw [reading, trace_append, List.forall_mem_append] at hothers
    exact hothers.1
  have hfails : ((initial visited []).watcher.start false).1.isOk = false := by decide +kernel
  have hsplit : reading = arrival ++ .start true ::
      (.move (.poll 3) :: List.replicate 13 (.move (.step 1)) ++ [.move (.step 1)]) := by
    rw [reading, visit, List.append_assoc, List.cons_append]
  have hstart : (((initial visited []).run arrival).watcher.start true).1 = .ok () := by
    decide +kernel
  have hbuilt : ((initial visited []).run visit).watcher.built = true := by decide +kernel
  have hread : .frame (.text guestFrame) ∈
      ((initial visited []).run visit).pool.read 0 (.step 1) := by decide +kernel
  have hparsed : (Event.parse guestFrame).toOption.map (fun e => e.type.isKnown) = some true := by
    decide +kernel
  have hthreads : ((initial visited []).run reading).pool.threads.map
      (fun t => (t.calls.length, (t.calls.head?.bind Call.event?).isSome)) =
        [(1, false), (2, true)] := by decide +kernel
  have hlasts : ((initial visited []).run reading).pool.Lasts 1 1 (.step 1 :: visitDelivery) := by
    decide +kernel
  have hheight : (((initial visited []).run reading).pool.run
      (.step 1 :: visitDelivery)).height 1 = 1 := by decide +kernel
  obtain ⟨_, _, _, _, hstop, hfailed⟩ := starts_wire_once visited [] [] (List.forall_mem_nil _)
  obtain ⟨hwired, _, hdelivers, _⟩ := starts_wire_once visited [] visit hvisit
  obtain ⟨hwired', _, _, hrecords, _⟩ := starts_wire_once visited [] reading hothers
  refine ⟨hstop rfl, ?_, hwired arrival true _ rfl hstart, ?_⟩
  · cases hresult : ((initial visited []).watcher.start false).1 with
    | error e => exact (hfailed false e hresult).2.1
    | ok => rw [hresult] at hfails; cases hfails
  · cases hparse : Event.parse guestFrame with
    | error error => rw [hparse] at hparsed; cases hparsed
    | ok e =>
        have hknown : e.type.isKnown = true := by
          rw [hparse] at hparsed
          exact Option.some.inj hparsed
        obtain ⟨i, calls, hdeliver⟩ := hdelivers 0 (.step 1) guestFrame e hread hparse hknown
        rw [← happen_move hbuilt, ← run_concat, ← reading] at hdeliver
        -- the delivery is that of the session
        have hplace := congrArg (·[i]?) hthreads
        rw [List.getElem?_map, hdeliver] at hplace
        obtain ⟨rfl, hdepth⟩ : i = 1 ∧ calls.length = 1 := by
          rcases i with _ | _ | i
          · simp [Call.event?] at hplace
          · simpa [Call.event?] using hplace
          · simp at hplace
        have hdeep : ((initial visited []).run reading).pool.Lasts 1 calls.length
            (.step 1 :: visitDelivery) := by rwa [hdepth]
        refine ⟨e, rfl, ?_⟩
        have hlogged := (hrecords 1 e calls .none visitDelivery hdeliver hdeep).1
          (hwired' arrival true _ hsplit hstart) hknown
        rw [hdepth] at hlogged
        rcases Pool.run_deliver hdeliver hdeep with hunder | hreturned
        · have hlt := hunder.lt_height
          rw [hdepth, hheight] at hlt
          exact absurd hlt (Nat.lt_irrefl 1)
        · exact hlogged.2 hreturned

end Program

end EventFeed.Simulation
