import EventFeed.Proofs.Dispatch.Deliveries
import EventFeed.Proofs.Serving.Events

/-! # What the event logger records

A session hands over the event that a frame holds, and the delivery of the event calls the event
logger as often as it is among the subscribers. With each call it makes one record, at once.
-/

namespace EventFeed.Simulation

/-- What a subscriber records of an event when it is called. -/
def HandlerId.records (e : Event) : HandlerId → List LogRecord
  | .eventLogger => [Report.registryEvent e]
  | .scripted _ => []

/-- What is recorded by the handler that the delivery at a depth of a thread calls when the thread
goes on. -/
def Thread.records (depth : Nat) (t : Thread) : List LogRecord :=
  match t.calls with
  | .handlers e (h :: _) _ :: below => if below.length = depth then h.records e else []
  | _ => []

/-- Handlers record an event as often as the event logger is among them. -/
theorem flatMap_records (e : Event) (list : List HandlerId) :
    list.flatMap (HandlerId.records e) =
      List.replicate (list.count .eventLogger) (Report.registryEvent e) := by
  induction list with
  | nil => rfl
  | cons h list ih =>
      rw [List.flatMap_cons, ih]
      cases h with
      | eventLogger => rw [List.count_cons_self, List.replicate_succ]; rfl
      | scripted name => rw [List.count_cons_of_ne (by simp)]; rfl

/-- A delivery calls its handlers with its own event. -/
theorem Delivering.records_eq {e : Event} {list invoked : List HandlerId} {calls : List Call}
    {ended : List Ending} {t : Thread} (h : Delivering e list calls invoked ended t.calls) :
    t.records calls.length = (t.invokes calls.length).flatMap (HandlerId.records e) := by
  generalize hstack : t.calls = stack at h
  simp only [Thread.records, Thread.invokes, hstack]
  cases h with
  | @between rest =>
      cases rest with
      | nil => rfl
      | cons h rest => simp
  | @within above =>
      cases above with
      | nil => rfl
      | cons c above =>
          -- a delivery that the handler has started lies higher up
          cases c with
          | handlers e' list' o =>
              cases list' with
              | nil => rfl
              | cons h list' =>
                  have hdepth : above.length + (calls.length + 1 + 1) ≠ calls.length := by omega
                  simp [hdepth]
          | _ => rfl

namespace Pool

/-- What the handlers record that the delivery at a depth of a thread calls. -/
def records (i depth : Nat) : Pool → Move → List LogRecord := seenAt i (Thread.records depth)

variable {p : Pool} {i n : Nat} {e : Event} {calls : List Call} {value : Value} {m : Move}
  {moves : List Move}

/-- What a handler records as it is called is all that comes of the call at once. -/
theorem world_of_records {depth : Nat} {r : LogRecord} (hr : r ∈ p.records i depth m) :
    (p.move m).world = p.world.report r := by
  by_cases hm : m = .step i
  · subst hm
    cases ht : p.threads[i]? with
    | none => simp [records, seenAt, ht] at hr
    | some t =>
        rw [records, seenAt_step ht] at hr
        obtain ⟨stack, value⟩ := t
        unfold Thread.records at hr
        split at hr
        next e h rest o below hstack =>
          obtain rfl : stack = .handlers e (h :: rest) o :: below := hstack
          split at hr
          next =>
            cases h with
            | eventLogger =>
                obtain rfl := List.mem_singleton.mp hr
                simp only [move, ht]
                rfl
            | scripted name => cases hr
          next => cases hr
        next => cases hr
  · rw [records, seenAt_of_ne hm] at hr
    cases hr

theorem trace_flatMap {α β : Type} (see : Pool → Move → List α) (f : α → List β) (p : Pool)
    (moves : List Move) :
    p.trace (fun q m => (see q m).flatMap f) moves = (p.trace see moves).flatMap f := by
  induction moves using List.reverseRecOn with
  | nil => rfl
  | append_singleton moves m ih => rw [trace_concat, trace_concat, List.flatMap_append, ih]

/-- What is recorded in a delivery is what its handlers record of its event. -/
theorem trace_records (hdeliver : p.threads[i]? = some ⟨.deliver e :: calls, value⟩)
    (hlasts : p.Lasts i calls.length (.step i :: moves)) :
    p.trace (records i calls.length) (.step i :: moves) =
      (p.trace (invoked i calls.length) (.step i :: moves)).flatMap (HandlerId.records e) := by
  rw [← trace_flatMap]
  refine trace_congr fun before m hbefore => ?_
  by_cases hm : m = .step i
  · subst hm
    rcases starts_or_underWay hdeliver hlasts hbefore with rfl | ⟨t, ht, hdelivering⟩
    · rw [run_nil, records, invoked, seenAt_step hdeliver, seenAt_step hdeliver]
      rfl
    · rw [records, invoked, seenAt_step ht, seenAt_step ht]
      exact hdelivering.records_eq
  · rw [records, invoked, seenAt_of_ne hm, seenAt_of_ne hm]
    rfl

/-- A delivery records its event as often as the event logger is among the subscribers when it
starts: once it has returned exactly so often, and before that no more often. -/
theorem records_of_deliver (hdeliver : p.threads[i]? = some ⟨.deliver e :: calls, value⟩)
    (hlasts : p.Lasts i calls.length (.step i :: moves)) :
    let due := List.replicate ((p.world.registry.handlers e.type).count .eventLogger)
      (Report.registryEvent e)
    p.trace (records i calls.length) (.step i :: moves) <+: due ∧
      (p.Returned i e calls (.step i :: moves) →
        p.trace (records i calls.length) (.step i :: moves) = due) := by
  intro due
  rw [trace_records hdeliver hlasts]
  have hdue : (p.world.registry.handlers e.type).flatMap (HandlerId.records e) = due :=
    flatMap_records e _
  have hall : p.Returned i e calls (.step i :: moves) →
      (p.trace (invoked i calls.length) (.step i :: moves)).flatMap (HandlerId.records e) =
        due := by
    intro hreturned
    rw [hreturned.invoked_eq, hdue]
  refine ⟨?_, hall⟩
  rcases run_deliver hdeliver hlasts with ⟨t, _, hdelivering⟩ | hreturned
  · obtain ⟨rest, hlist⟩ := hdelivering.exists_rest
    rw [← hdue, ← hlist, List.flatMap_append]
    exact List.prefix_append _ _
  · exact ⟨[], by rw [List.append_nil, hall hreturned]⟩

/-- A delivery that has not returned yet returns when its thread is let alone. -/
theorem exists_returned (hdeliver : p.threads[i]? = some ⟨.deliver e :: calls, value⟩)
    (hlasts : p.Lasts i calls.length (.step i :: moves)) :
    ∃ k, p.Returned i e calls (.step i :: moves ++ List.replicate k (.step i)) := by
  rcases run_deliver hdeliver hlasts with hunder | hreturned
  · obtain ⟨k, _, hreturned⟩ := hunder.returns hlasts
    exact ⟨k, hreturned⟩
  · exact ⟨0, by simpa using hreturned⟩

/-- A session that reads a frame with an event of the registry goes on to deliver it. -/
theorem deliver_of_read {raw : String} (hread : .frame (.text raw) ∈ p.read n m)
    (hparse : Event.parse raw = .ok e) (hknown : e.type.isKnown = true) :
    ∃ (i : Nat) (below : List Call),
      (p.move m).threads[i]? = some ⟨.deliver e :: below, .none⟩ := by
  obtain ⟨task, h, rest, hcall, htask, ha, hturn⟩ := exists_of_read hread
  obtain ⟨i, value, below, rfl, ht, hmove⟩ := exists_of_session hcall
  have hi := (List.getElem?_eq_some_iff.mp ht).1
  have hreading : (Inbound.frame (.text raw)).reading = .event e := by
    have hpong : e.isPong = false := by
      unfold Event.isPong
      cases htype : e.type with
      | registry event => rfl
      | custom t => rw [htype] at hknown; cases hknown
    simp [Inbound.reading, Reading.ofText, hparse, hpong]
  have hstep : p.world.stepSession task.session (.serving n h) value = _ :=
    (World.Comes.deliver hturn hreading).eq
  rw [← ha] at hstep
  refine ⟨i, .session task.session.epoch :: below, ?_⟩
  rw [hmove, World.runSession_goOn htask hstep]
  exact List.getElem?_set_self hi

end Pool

end EventFeed.Simulation
