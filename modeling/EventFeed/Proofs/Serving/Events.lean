import EventFeed.Proofs.Serving.Inbox

/-! # Events that are handed over

A session hands over to be delivered the events that it reads, in their order. Replies to
heartbeats, probes and malformed frames concern no handler, and a malformed frame concerns nothing
else either.
-/

namespace EventFeed

/-- The event that an item holds for subscribers. The reply to a heartbeat is not for them. -/
def Inbound.event? : Inbound → Option Event
  | .frame (.text text) =>
    match Event.parse text with
    | .ok e => if e.type.name = Event.pongName then none else some e
    | .error _ => none
  | _ => none

theorem Event.isPong_iff (e : Event) : e.isPong = true ↔ e.type.name = pongName := by
  obtain ⟨type, payload, timestamp⟩ := e
  cases type with
  | registry event => cases event <;> simp [isPong, EventType.name, RegistryEvent.name, pongName]
  | custom t => simp [isPong, EventType.name]

/-- What a client makes of an item is an event if the item holds one. -/
theorem Inbound.reading_eq_event {item : Inbound} {e : Event} :
    item.reading = .event e ↔ item.event? = some e := by
  cases item with
  | frame frame =>
      cases frame with
      | text text =>
          simp only [reading, Reading.ofText, event?]
          cases Event.parse text with
          | error error => simp
          | ok e' =>
              simp only [← e'.isPong_iff]
              cases e'.isPong <;> simp
      | _ => simp [reading, event?]
  | _ => simp [reading, event?]

theorem Inbound.event?_eq_none {item : Inbound} (h : ∀ e, item.reading ≠ .event e) :
    item.event? = none :=
  Option.eq_none_iff_forall_ne_some.mpr fun e he => h e (reading_eq_event.mpr he)

namespace Simulation

/-- The event that is handed over by a call. -/
def Call.event? : Call → Option Event
  | .deliver e => some e
  | _ => none

/-- The events that a step of a session hands over. -/
def Progress.events : Progress → List Event
  | .goOn _ calls => (calls.head?.bind Call.event?).toList
  | _ => []

namespace World

variable {w : World} {n : Nat}

/-- A session that holds a connection hands over the events that it reads from it, and no others. -/
theorem stepSession_events {s : Session} {a : Activity} (value : Value) (ha : a.link? = some n) :
    (w.stepSession s a value).2.2.events = (w.takesOut n s.epoch a).filterMap Inbound.event? := by
  have hcomes := w.stepSession_comes s a value
  generalize w.stepSession s a value = r at hcomes
  cases hcomes with
  | deliver hturn hreading =>
      obtain rfl := Option.some.inj ha
      simp [takesOut, hturn, Inbound.reading_eq_event.mp hreading, Progress.events, Call.event?]
  | acknowledge hturn hreading | overhear hturn hreading | drop hturn hreading
  | cutOff hturn hreading =>
      obtain rfl := Option.some.inj ha
      simp [takesOut, hturn, Inbound.event?_eq_none, hreading, Progress.events]
  | stop hturn | lapse hturn | probe hturn | idle hturn =>
      simp [takesOut, hturn, Progress.events]
  | _ => rfl

/-- What a session reads from a connection, it reads from the one that it holds. -/
theorem takesOut_of_ne {epoch : UInt64} {a : Activity} (ha : a.link? ≠ some n) :
    w.takesOut n epoch a = [] := by
  cases a with
  | serving k h =>
      have hk : k ≠ n := fun heq => ha (congrArg some heq)
      simp only [takesOut, if_neg hk]
      split <;> rfl
  | _ => rfl

/-- A session at the bottom of its thread leaves on top what its step leads to. -/
theorem runSession_events (epoch : UInt64) (value : Value) :
    ((w.runSession epoch value []).2.head?.bind Call.event?).toList =
      ((w.task? epoch).map fun task =>
        (w.stepSession task.session task.activity value).2.2.events).getD [] := by
  unfold runSession
  cases w.task? epoch with
  | none => rfl
  | some task =>
      dsimp only [Option.map_some, Option.getD_some]
      split
      next calls heq =>
        rw [heq]
        cases calls <;> rfl
      next heq =>
        rw [heq]
        rfl
      next heq =>
        rw [heq]
        rfl

/-! ## Items without an event -/

/-- A session that reads an item without an event calls nothing. -/
theorem stepSession_calls {s : Session} {h : Heartbeat} {item : Inbound} {rest : List Inbound}
    (hturn : h.turn w.now (w.lifecycle.isStopped s.epoch) (w.inbox n) = .read item rest)
    (hevent : item.event? = none) (value : Value) :
    ∃ w' a, w.stepSession s (.serving n h) value = (w', s, .goOn a []) := by
  cases hreading : item.reading with
  | event e =>
      rw [Inbound.reading_eq_event, hevent] at hreading
      cases hreading
  | acknowledgement => exact ⟨_, _, (Comes.acknowledge hturn hreading).eq⟩
  | probe => exact ⟨_, _, (Comes.overhear hturn hreading).eq⟩
  | malformed => exact ⟨_, _, (Comes.drop hturn hreading).eq⟩
  | «over» => exact ⟨_, _, (Comes.cutOff hturn hreading).eq⟩

theorem task?_setTask (w : World) (task : Task) (epoch : UInt64) :
    (w.setTask task).task? epoch =
      (w.task? epoch).map fun t => if t.session.epoch = task.session.epoch then task else t := by
  have hepoch : ((fun t : Task => t.session.epoch == epoch) ∘ fun t =>
      if t.session.epoch = task.session.epoch then task else t) =
        fun t : Task => t.session.epoch == epoch := by
    funext t
    simp only [Function.comp_apply]
    split
    next heq => rw [heq]
    next => rfl
  rw [task?, setTask, List.find?_map, hepoch]
  rfl

/-- A session that goes on as it was leaves what all sessions are at. -/
theorem activity?_setTask {task : Task} (task' : Task)
    (htask : w.task? task'.session.epoch = some task) (hsame : task'.activity = task.activity)
    (epoch : UInt64) :
    (w.setTask task').activity? epoch = w.activity? epoch := by
  rw [activity?, activity?, task?_setTask]
  cases hfound : w.task? epoch with
  | none => rfl
  | some t =>
      simp only [Option.map_some]
      split
      next heq =>
        rw [epoch_of_task? hfound] at heq
        rw [heq, htask] at hfound
        rw [hsame, Option.some.inj hfound]
      next => rfl

end World

/-! ## Runs -/

namespace Pool

/-- The event that the session which holds a connection hands over with a move. -/
def handed (n : Nat) (p : Pool) (m : Move) : List Event :=
  match p.call? m with
  | some (.session epoch) =>
    if (p.world.activity? epoch).bind Activity.link? = some n then
      (((p.move m).call? m).bind Call.event?).toList
    else []
  | _ => []

variable {p : Pool} {m : Move} {n : Nat}

/-- What is handed over with a move is what is read with it, as far as it is an event. -/
theorem move_handed (hshape : p.Shaped) (m : Move) :
    p.handed n m = (p.read n m).filterMap Inbound.event? := by
  cases hcall : p.call? m with
  | none => simp [handed, read, World.readings, hcall]
  | some c =>
    cases c with
    | session epoch =>
        obtain ⟨i, value, below, rfl, ht, hmove⟩ := exists_of_session hcall
        obtain rfl : below = [] :=
          Shape.eq_nil_of_session (hshape _ (List.mem_of_getElem? ht)) rfl
        have hi := (List.getElem?_eq_some_iff.mp ht).1
        have hafter : (p.move (.step i)).call? (.step i) =
            (p.world.runSession epoch value []).2.head? := by
          simp [hmove, call?, hi]
        simp only [handed, read, hcall, hafter, World.readings, World.runSession_events]
        rw [World.activity?]
        cases htask : p.world.task? epoch with
        | none => simp
        | some task =>
            simp only [Option.map_some, Option.bind_some, Option.getD_some]
            obtain rfl := World.epoch_of_task? htask
            split
            next hlink => exact World.stepSession_events value hlink
            next hlink => rw [World.takesOut_of_ne hlink]; rfl
    | _ => simp [handed, read, World.readings, hcall]

theorem run_handed (hshape : p.Shaped) (moves : List Move) :
    p.trace (handed n) moves = (p.trace (read n) moves).filterMap Inbound.event? := by
  induction moves using List.reverseRecOn with
  | nil => rfl
  | append_singleton moves m ih =>
      rw [trace_concat, trace_concat, List.filterMap_append, ih,
        move_handed (run_shaped moves hshape) m]

/-- What is read is first in the inbox of a connection that a session serves, and is its turn. -/
theorem exists_of_read {item : Inbound} (hread : item ∈ p.read n m) :
    ∃ task h rest, p.call? m = some (.session task.session.epoch) ∧
      p.world.task? task.session.epoch = some task ∧ task.activity = .serving n h ∧
      h.turn p.world.now (p.world.lifecycle.isStopped task.session.epoch) (p.world.inbox n) =
        .read item rest := by
  cases hcall : p.call? m with
  | none => simp [read, World.readings, hcall] at hread
  | some c =>
    cases c with
    | session epoch =>
        simp only [read, World.readings, hcall, World.activity?] at hread
        cases htask : p.world.task? epoch with
        | none => simp [htask] at hread
        | some task =>
            obtain rfl := World.epoch_of_task? htask
            simp only [htask, Option.map_some, Option.getD_some] at hread
            cases ha : task.activity with
            | serving k h =>
                simp only [ha, World.takesOut] at hread
                split at hread
                next rest hturn =>
                  split at hread
                  next hk =>
                    obtain rfl := hk
                    rw [List.mem_singleton.mp hread]
                    exact ⟨task, h, rest, rfl, htask, ha, hturn⟩
                  next => cases hread
                next => cases hread
            | _ => simp [ha, World.takesOut] at hread
    | _ => simp [read, World.readings, hcall] at hread

/-- An item that is no event for subscribers leads to no call. -/
theorem calls_of_read {item : Inbound} (hread : item ∈ p.read n m) (hevent : item.event? = none) :
    (p.move m).threads.map Thread.calls = p.threads.map Thread.calls := by
  obtain ⟨task, h, rest, hcall, htask, ha, hturn⟩ := exists_of_read hread
  obtain ⟨i, value, below, rfl, ht, hmove⟩ := exists_of_session hcall
  obtain ⟨w', a, hstep⟩ := World.stepSession_calls hturn hevent value
  rw [← ha] at hstep
  obtain ⟨hi, hthread⟩ := List.getElem?_eq_some_iff.mp ht
  have hlength : i < (p.threads.map Thread.calls).length := by simpa using hi
  have hcalls : (p.threads.map Thread.calls)[i] = .session task.session.epoch :: below := by
    simp [hthread]
  rw [hmove, World.runSession_goOn htask hstep, List.nil_append, List.map_set, ← hcalls,
    List.set_getElem_self]

/-- A frame that is malformed leaves the manager, the subscriptions and all sessions as they are. -/
theorem kept_of_read {text : String} {error : FrameError}
    (hread : .frame (.text text) ∈ p.read n m) (hparse : Event.parse text = .error error) :
    (p.move m).world.lifecycle = p.world.lifecycle ∧
      (p.move m).world.registry = p.world.registry ∧
      ∀ epoch, (p.move m).world.activity? epoch = p.world.activity? epoch := by
  obtain ⟨task, h, rest, hcall, htask, ha, hturn⟩ := exists_of_read hread
  obtain ⟨i, value, below, rfl, ht, hmove⟩ := exists_of_session hcall
  have hreading : (Inbound.frame (.text text)).reading = .malformed error := by
    simp [Inbound.reading, Reading.ofText, hparse]
  have hstep : p.world.stepSession task.session (.serving n h) value = _ :=
    (World.Comes.drop hturn hreading).eq
  have hsame := (p.world.setInbox_same n rest).trans
    (World.report_same _ (Report.malformedFrame error))
  generalize (p.world.setInbox n rest).report (Report.malformedFrame error) = w' at hstep hsame
  rw [← ha] at hstep
  have hrun := World.runSession_goOn htask hstep below
  have hregistry := congrArg Holdings.registry
    (p.world.runSession_holdings task.session.epoch value below)
  have htask' : w'.task? task.session.epoch = some task := by
    rw [World.task?, hsame.tasks]
    exact htask
  rw [hmove]
  refine ⟨?_, hregistry, fun epoch => ?_⟩
  · rw [hrun]
    exact hsame.lifecycle
  · rw [hrun]
    refine (World.activity?_setTask ⟨task.session, task.activity, task.alarms.filter _⟩ htask' rfl
      epoch).trans ?_
    rw [World.activity?, World.task?, hsame.tasks]
    rfl

/-- Whatever happens in a run, what has come in on a connection has been read in the order in which
it has come in, each item once, as far as it does not wait to be read. The events that have been
handed over to be delivered are those among the items read which are not replies to heartbeats, in
their order and each once. An item that is no such event leads to no call, whoever is subscribed,
and a malformed frame leaves the manager, the subscriptions and what all sessions are at as they
were, their heartbeats included. -/
theorem events_are_handed_over (scenario : Scenario) (opens : List OpenScript)
    (moves : List Move) (n : Nat) :
    let p := start scenario opens
    let q := p.run moves
    p.trace (arrived n) moves = p.trace (read n) moves ++ q.world.inbox n ∧
      p.trace (handed n) moves = (p.trace (read n) moves).filterMap Inbound.event? ∧
      (∀ m, ∀ item ∈ q.read n m, item.event? = none →
        (q.move m).threads.map Thread.calls = q.threads.map Thread.calls) ∧
      ∀ m text error, .frame (.text text) ∈ q.read n m → Event.parse text = .error error →
        (q.move m).world.lifecycle = q.world.lifecycle ∧
          (q.move m).world.registry = q.world.registry ∧
          ∀ epoch, (q.move m).world.activity? epoch = q.world.activity? epoch := by
  intro p q
  refine ⟨?_, run_handed (start_shaped scenario opens) moves, fun m item => calls_of_read,
    fun m text error => kept_of_read⟩
  have hinbox := @run_inbox p n moves
  have hempty : p.world.inbox n = [] := rfl
  rw [hempty, List.nil_append] at hinbox
  exact hinbox

/-- A connection comes with frames of all kinds, one of which is an event. -/
def talkative : Scenario where
  fallback := { items := [
    .frame (.text "nonsense"),
    .frame (.text "\x7b\"type\":\"pong\"\x7d"),
    .frame (.ping ⟨#[]⟩),
    .frame (.text "\x7b\"type\":\"service.registered\"\x7d"),
    .frame (.pong ⟨#[]⟩)] }

/-- A caller connects, and the session comes to serve the connection. -/
def talkativeStart : List Move :=
  .begin [.connect] :: List.replicate 12 (.step 0) ++ .poll 1 :: List.replicate 11 (.step 1)

/-- The session reads what the connection came with. -/
def talkativeRun : List Move := talkativeStart ++ List.replicate 7 (.step 1)

theorem events_are_handed_over_talkative :
    (start talkative []).trace (read 0) talkativeRun = talkative.fallback.items ∧
      ((start talkative []).trace (handed 0) talkativeRun).map Event.type =
        [.registry .serviceRegistered] ∧
      .frame (.text "nonsense") ∈ ((start talkative []).run talkativeStart).read 0 (.step 1) ∧
      (Event.parse "nonsense").isOk = false ∧
      (((start talkative []).run talkativeStart).move (.step 1)).world.lifecycle =
        ((start talkative []).run talkativeStart).world.lifecycle := by
  have hread : (start talkative []).trace (read 0) talkativeRun = talkative.fallback.items := by
    decide +kernel
  have hnonsense : .frame (.text "nonsense") ∈
      ((start talkative []).run talkativeStart).read 0 (.step 1) := by decide +kernel
  have hmalformed : (Event.parse "nonsense").isOk = false := by decide +kernel
  obtain ⟨_, hhanded, _⟩ := events_are_handed_over talkative [] talkativeRun 0
  obtain ⟨_, _, _, hkept⟩ := events_are_handed_over talkative [] talkativeStart 0
  refine ⟨hread, ?_, hnonsense, hmalformed, ?_⟩
  · rw [hhanded, hread]
    decide +kernel
  · cases hparse : Event.parse "nonsense" with
    | ok e =>
        rw [hparse] at hmalformed
        cases hmalformed
    | error error => exact (hkept _ _ error hnonsense hparse).1

end Pool

end Simulation

end EventFeed
