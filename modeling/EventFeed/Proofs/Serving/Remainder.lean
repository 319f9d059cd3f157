import EventFeed.Proofs.Dispatch.Deliveries
import EventFeed.Proofs.Serving.Conduct
import EventFeed.Proofs.Serving.Events

/-! # What a session has still to have called

A session lies at the bottom of its thread, and the delivery of an event that it hands over lies
right above it. Whatever the handlers do, the delivery stays there until it has called them all, and
a session that has been superseded hands nothing over afterwards.
-/

namespace EventFeed.Simulation

/-- The handlers that a call has still to call, each with the event. -/
def Call.ahead : Call → List (Event × HandlerId)
  | .handlers e rest _ => rest.map fun h => (e, h)
  | _ => []

/-- The call, among those of a thread, that lies right above the session of an epoch. -/
def callOf (epoch : UInt64) (calls : List Call) : Option Call :=
  match calls.reverse with
  | .session e :: c :: _ => if e = epoch then some c else none
  | _ => none

namespace Thread

/-- What a session has still to have called, of the event that is being delivered for it. -/
def ahead (epoch : UInt64) (t : Thread) : List (Event × HandlerId) :=
  ((callOf epoch t.calls).map Call.ahead).getD []

/-- The event that a session has handed over, before its delivery starts. -/
def handsOver? (epoch : UInt64) (t : Thread) : Option Event :=
  (callOf epoch t.calls).bind Call.event?

/-- The handler that is called by a delivery for the session of an epoch when a thread goes on. -/
def calling (epoch : UInt64) (t : Thread) : List (Event × HandlerId) :=
  match t.calls with
  | [.handlers e (h :: _) _, .session s] => if s = epoch then [(e, h)] else []
  | _ => []

end Thread

section CallOf

variable {epoch : UInt64} {calls above : List Call} {c d : Call}

@[simp] theorem callOf_session (epoch s : UInt64) (above : List Call) :
    callOf epoch (above ++ [.session s]) = if s = epoch then above.getLast? else none := by
  rw [callOf, List.reverse_append, List.getLast?_eq_head?_reverse]
  cases above.reverse <;> simp

theorem callOf_above (epoch s : UInt64) (above : List Call) (d : Call) :
    callOf epoch (above ++ [d, .session s]) = if s = epoch then some d else none := by
  have hassoc : above ++ [d, .session s] = (above ++ [d]) ++ [.session s] := by simp
  rw [hassoc, callOf_session, List.getLast?_concat]

theorem callOf_sessionless (h : ∀ c ∈ calls, c.role ≠ .session) : callOf epoch calls = none := by
  unfold callOf
  split
  next s c rest heq =>
    have hmem : Call.session s ∈ calls := by
      rw [← List.mem_reverse, heq]
      exact List.mem_cons_self
    exact absurd rfl (h _ hmem)
  next => rfl

/-- A session can lie at the bottom alone. -/
theorem Shape.bottom (h : Shape calls) : (∀ c ∈ calls, c.role ≠ .session) ∨
    ∃ above s, calls = above ++ [.session s] ∧ ∀ c ∈ above, c.role ≠ .session := by
  induction calls with
  | nil => exact .inl (List.forall_mem_nil _)
  | cons c calls ih =>
      by_cases hc : c.role = .session
      · obtain rfl := h.eq_nil_of_session hc
        cases c with
        | session s => exact .inr ⟨[], s, rfl, List.forall_mem_nil _⟩
        | _ => cases hc
      · rcases ih h.2 with hnone | ⟨above, s, rfl, habove⟩
        · exact .inl (List.forall_mem_cons.mpr ⟨hc, hnone⟩)
        · exact .inr ⟨c :: above, s, rfl, List.forall_mem_cons.mpr ⟨hc, habove⟩⟩

end CallOf

/-- How a thread is after a move, for what a session has still to have called. -/
inductive Thread.Proceeds (epoch : UInt64) (calling : List (Event × HandlerId)) (t t' : Thread) :
    Prop
  /-- Nothing is called for the session, and nothing comes to be called. -/
  | keeps : calling = [] → t'.ahead epoch = t.ahead epoch →
      (∀ e, t'.handsOver? epoch = some e → t.handsOver? epoch = some e) →
      Proceeds epoch calling t t'
  /-- The next handler is called. -/
  | calls : t.handsOver? epoch = none → t'.handsOver? epoch = none →
      t.ahead epoch = calling ++ t'.ahead epoch → Proceeds epoch calling t t'
  /-- The delivery of the event that has been handed over starts. -/
  | starts {e : Event} : t.handsOver? epoch = some e → t'.handsOver? epoch = none →
      calling = [] → (∀ x ∈ t'.ahead epoch, x.1 = e) → Proceeds epoch calling t t'

namespace World

variable {w : World} {epoch : UInt64}

/-! ## Sessions that have been superseded -/

/-- The session of an epoch has been told to stop, and another request has been made since. -/
structure Superseded (w : World) (epoch : UInt64) : Prop where
  stopped : w.lifecycle.isStopped epoch = true
  outdated : w.lifecycle.epoch ≠ epoch

theorem Superseded.turn (h : w.Superseded epoch) (heartbeat : Heartbeat) (inbox : List Inbound) :
    heartbeat.turn w.now (w.lifecycle.isStopped epoch) inbox = .stop := by
  rw [h.stopped]
  rfl

/-- A session that has been superseded reads nothing. -/
theorem Superseded.takesOut (h : w.Superseded epoch) (n : Nat) (a : Activity) :
    w.takesOut n epoch a = [] := by
  cases a with
  | serving k heartbeat => simp only [World.takesOut, h.turn]
  | _ => rfl

/-- A session that has been superseded starts to send nothing but a close frame. -/
theorem Superseded.begins (h : w.Superseded epoch) (n : Nat) (a : Activity) :
    ∀ frame ∈ w.begins n epoch a, frame = .close := by
  cases a with
  | serving k heartbeat =>
      simp only [World.begins, h.turn]
      split <;> simp
  | accepted k =>
      simp only [World.begins]
      split <;> simp
  | _ => exact List.forall_mem_nil _

/-- A session that has been superseded hands nothing over. -/
theorem Superseded.events {s : Session} (h : w.Superseded s.epoch) (a : Activity) (value : Value) :
    (w.stepSession s a value).2.2.events = [] := by
  have hcomes := w.stepSession_comes s a value
  generalize w.stepSession s a value = r at hcomes
  cases hcomes with
  | deliver hturn =>
      rw [h.turn] at hturn
      cases hturn
  | _ => rfl

/-- What lies above a session that has been superseded and has gone on is no delivery. -/
theorem Superseded.callOf_runSession (h : w.Superseded epoch) (value : Value) :
    ∃ above, ((w.runSession epoch value []).2 = [] ∨
      (w.runSession epoch value []).2 = above ++ [.session epoch]) ∧
      (above = [] ∨ ∃ actions, above = [.actions actions]) := by
  cases htask : w.task? epoch with
  | none => exact ⟨[], .inl (by rw [runSession_absent htask]), .inl rfl⟩
  | some task =>
      obtain rfl := epoch_of_task? htask
      cases hstep : w.stepSession task.session task.activity value with
      | mk w₁ rest =>
        obtain ⟨s, progress⟩ := rest
        cases progress with
        | goOn b calls =>
            refine ⟨calls, .inr (by rw [runSession_goOn htask hstep]), ?_⟩
            have hevents := h.events task.activity value
            have hacts := (steps_of_task? htask hstep).2
            rw [hstep] at hevents
            generalize hl : (w₁, s, Progress.goOn b calls).1.lifecycle = l at hacts
            cases hacts with
            | goOn _ hleads =>
                rcases hleads with rfl | ⟨event, rfl⟩ | ⟨script, _, rfl⟩
                · exact .inl rfl
                · cases hevents
                · exact .inr ⟨_, rfl⟩
            | change _ _ hadvance =>
                exact absurd (Lifecycle.advance?_eq_some.mp hadvance).1 h.outdated
            | leave => exact .inl rfl
        | wait b alarms => exact ⟨[], .inl (by rw [runSession_wait htask hstep]), .inl rfl⟩
        | finish => exact ⟨[], .inl (by rw [runSession_finish htask hstep]), .inl rfl⟩

/-! ## Steps -/

/-- An error that is reported above other calls of a callback reaches nothing that lies below. -/
theorem failHandler_cons_append (w : World) (event : Event) (message : String) (c : Call)
    (above below : List Call) :
    (w.failHandler event message (c :: above ++ below)).2 =
      (w.failHandler event message (c :: above)).2 ++ below := by
  cases c <;> rfl

/-- A session that lies at the bottom stays there, or is gone with all that lies above it. -/
theorem step_over (w : World) {c : Call} (above : List Call) (s : UInt64) (value : Value) :
    (w.step ⟨c :: above ++ [.session s], value⟩).2.calls = [] ∨
      ∃ more, (w.step ⟨c :: above ++ [.session s], value⟩).2.calls = more ++ [.session s] := by
  cases hbreaks : c.breaks with
  | true =>
      have hcalls : (w.step ⟨c :: above ++ [.session s], value⟩).2.calls =
          caught (above ++ [.session s]) := congrArg Thread.calls (w.step_breaks hbreaks _ value)
      rw [hcalls]
      cases hcatches : above.any Call.catches with
      | true => exact .inr ⟨_, caught_append hcatches⟩
      | false =>
          rw [caught_append_of_not hcatches]
          exact .inl rfl
  | false => exact .inr ⟨_, w.step_above hbreaks above [.session s] (by simp) value⟩

/-- What lies right above a session is not touched by what lies further up, except that a failure
may be noted. -/
theorem step_lower (w : World) (c d : Call) (above : List Call) (s : UInt64) (value : Value) :
    (w.step ⟨c :: above ++ [d, .session s], value⟩).2.calls = [] ∧ d.catches = false ∨
      ∃ more d', (w.step ⟨c :: above ++ [d, .session s], value⟩).2.calls =
        more ++ [d', .session s] ∧ d'.ahead = d.ahead ∧ d'.event? = d.event? := by
  have hsame : ∀ {calls}, (∃ more, calls = more ++ [d, .session s]) →
      ∃ more d', calls = more ++ [d', .session s] ∧ d'.ahead = d.ahead ∧ d'.event? = d.event? :=
    fun ⟨more, hmore⟩ => ⟨more, d, hmore, rfl, rfl⟩
  cases hbreaks : c.breaks with
  | true =>
      have hcalls : (w.step ⟨c :: above ++ [d, .session s], value⟩).2.calls =
          caught (above ++ [d, .session s]) := congrArg Thread.calls (w.step_breaks hbreaks _ value)
      rw [hcalls]
      cases hcatches : above.any Call.catches with
      | true => exact .inr (hsame ⟨_, caught_append hcatches⟩)
      | false =>
          rw [caught_append_of_not hcatches]
          cases d with
          | handlers e rest o => exact .inr ⟨[], _, rfl, rfl, rfl⟩
          | observers next rest => exact .inr (hsame ⟨[], rfl⟩)
          | _ => exact .inl ⟨rfl, rfl⟩
  | false =>
      by_cases hfailed : ∃ e message, c = .handled e (.failed message)
      · obtain ⟨e, message, rfl⟩ := hfailed
        refine .inr ?_
        cases above with
        | nil =>
            cases d with
            | handlers e rest o => exact ⟨[], _, rfl, rfl, rfl⟩
            | _ => exact hsame ⟨[], rfl⟩
        | cons b above => exact hsame ⟨_, w.failHandler_cons_append e message b above _⟩
      · refine .inr (hsame ⟨_, w.step_above_of_not_failed hbreaks ?_ above _ value⟩)
        exact fun e message heq => hfailed ⟨e, message, heq⟩

section Step

variable {t : Thread}

/-- Nothing is called, and there is no delivery afterwards that was not there before. -/
theorem proceeds_of_no_delivery {t' : Thread} (hcalling : t.calling epoch = [])
    (hahead : t.ahead epoch = [])
    (hnone : ∀ d ∈ callOf epoch t'.calls, d.ahead = [] ∧ d.event? = none) :
    t.Proceeds epoch (t.calling epoch) t' := by
  refine .keeps hcalling ?_ fun e he => ?_
  · rw [hahead, Thread.ahead]
    cases hd : callOf epoch t'.calls with
    | none => rfl
    | some d => exact (hnone d hd).1
  · rw [Thread.handsOver?] at he
    cases hd : callOf epoch t'.calls with
    | none => rw [hd] at he; cases he
    | some d => rw [hd, Option.bind_some, (hnone d hd).2] at he; cases he

theorem calling_of_length (h : 2 < t.calls.length) : t.calling epoch = [] := by
  unfold Thread.calling
  split
  next heq =>
    rw [heq] at h
    exact absurd h (Nat.lt_irrefl 2)
  next => rfl

/-- Further up nothing is done for the session itself. -/
theorem step_proceeds_lower (w : World) (c d : Call) (above : List Call) (value : Value)
    (ht : t = ⟨c :: above ++ [d, .session epoch], value⟩) :
    t.Proceeds epoch (t.calling epoch) (w.step t).2 := by
  have hcalling : t.calling epoch = [] := calling_of_length (by simp [ht])
  have hcall : callOf epoch t.calls = some d := by rw [ht, callOf_above, if_pos rfl]
  have hstep := w.step_lower c d above epoch value
  rw [← ht] at hstep
  rcases hstep with ⟨hcalls, hcatches⟩ | ⟨more, d', hcalls, hahead, hevent⟩
  · refine proceeds_of_no_delivery hcalling ?_ (by simp [hcalls, callOf])
    rw [Thread.ahead, hcall]
    cases d with
    | handlers => cases hcatches
    | _ => rfl
  · have hcall' : callOf epoch (w.step t).2.calls = some d' := by
      rw [hcalls, callOf_above, if_pos rfl]
    refine .keeps hcalling ?_ fun e he => ?_
    · rw [Thread.ahead, Thread.ahead, hcall, hcall']
      exact hahead
    · rw [Thread.handsOver?, hcall'] at he
      rw [Thread.handsOver?, hcall, ← he]
      exact hevent.symm

/-- A call that a session has made goes on: a delivery starts, or calls its next handler. -/
theorem step_proceeds_top (w : World) {c : Call} (hc : c.role ≠ .session) (value : Value)
    (ht : t = ⟨[c, .session epoch], value⟩) :
    t.Proceeds epoch (t.calling epoch) (w.step t).2 := by
  have hcall : callOf epoch t.calls = some c := by
    rw [ht]
    exact (callOf_above epoch epoch [] c).trans (if_pos rfl)
  -- what is no delivery comes to nothing that is one
  have hother : t.calling epoch = [] → c.ahead = [] →
      (∀ d ∈ callOf epoch (w.step t).2.calls, d.ahead = [] ∧ d.event? = none) →
      t.Proceeds epoch (t.calling epoch) (w.step t).2 := by
    intro hcalling hahead hnone
    refine proceeds_of_no_delivery hcalling ?_ hnone
    rw [Thread.ahead, hcall]
    exact hahead
  have hlast : ∀ {above}, (w.step t).2.calls = above ++ [.session epoch] →
      (∀ d ∈ above.getLast?, d.ahead = [] ∧ d.event? = none) →
      ∀ d ∈ callOf epoch (w.step t).2.calls, d.ahead = [] ∧ d.event? = none := by
    intro above habove hd
    rw [habove, callOf_session, if_pos rfl]
    exact hd
  cases c with
  | actions list =>
      subst ht
      cases list with
      | nil => exact hother rfl rfl (@hlast [] rfl (by simp))
      | cons a rest =>
          refine hother rfl rfl
            (@hlast ((w.perform a).2.2 ++ [.yielded a, .actions rest]) (by simp [step]) ?_)
          simp [List.getLast?_append, Call.ahead, Call.event?]
  | yielded a =>
      subst ht
      exact hother rfl rfl (@hlast [] rfl (by simp))
  | deliver e =>
      subst ht
      have hover : Thread.handsOver? epoch ⟨[.deliver e, .session epoch], value⟩ = some e := by
        rw [Thread.handsOver?, hcall]
        rfl
      cases hlist : w.registry.handlers e.type with
      | nil =>
          have hafter :
              callOf epoch (w.step ⟨[.deliver e, .session epoch], value⟩).2.calls = none := by
            simp only [step, hlist]
            rfl
          refine .starts hover ?_ rfl ?_
          · rw [Thread.handsOver?, hafter]; rfl
          · rw [Thread.ahead, hafter]; simp
      | cons h rest =>
          have hafter : callOf epoch (w.step ⟨[.deliver e, .session epoch], value⟩).2.calls =
              some (.handlers e (h :: rest) {}) := by
            simp only [step, hlist]
            exact (callOf_above epoch epoch [] _).trans (if_pos rfl)
          refine .starts hover ?_ rfl ?_
          · rw [Thread.handsOver?, hafter]; rfl
          · rw [Thread.ahead, hafter]; simp [Call.ahead]
  | handlers e list o =>
      subst ht
      cases list with
      | nil => exact hother rfl rfl (@hlast [] rfl (by simp))
      | cons h rest =>
          have hafter : callOf epoch
              (w.step ⟨[.handlers e (h :: rest) o, .session epoch], value⟩).2.calls =
                some (.handlers e rest { o with invoked := o.invoked + 1 }) := by
            simp only [step]
            exact (callOf_above epoch epoch _ _).trans (if_pos rfl)
          refine .calls ?_ ?_ ?_
          · rw [Thread.handsOver?, hcall]; rfl
          · rw [Thread.handsOver?, hafter]; rfl
          · rw [Thread.ahead, Thread.ahead, hcall, hafter]
            simp [Thread.calling, Call.ahead]
  | handled e ending =>
      subst ht
      cases ending with
      | broken => exact hother rfl rfl (by simp [step, unwind, callOf])
      | _ => exact hother rfl rfl (@hlast [] rfl (by simp))
  | flush =>
      subst ht
      refine hother rfl rfl ?_
      simp only [step]
      split
      · simp [callOf]
      · simp [callOf, Call.ahead, Call.event?]
  | drain =>
      subst ht
      refine hother rfl rfl ?_
      simp only [step]
      split
      · simp [callOf]
      · simp [callOf, Call.ahead, Call.event?]
  | observers next list =>
      subst ht
      cases list with
      | nil => exact hother rfl rfl (@hlast [] rfl (by simp))
      | cons o rest =>
          exact hother rfl rfl (by simp [step, callOf, Call.ahead, Call.event?])
  | observer o next =>
      subst ht
      refine hother rfl rfl (@hlast (w.callObserver next o).2 rfl ?_)
      cases o with
      | notifier => simp only [callObserver]; split <;> simp
      | scripted name =>
          simp only [callObserver]
          split <;> simp [Call.ahead, Call.event?]
  | observed breaks =>
      subst ht
      cases breaks with
      | true => exact hother rfl rfl (by simp [step, unwind, callOf])
      | false => exact hother rfl rfl (@hlast [] rfl (by simp))
  | session epoch => exact absurd rfl hc

/-- Whatever goes on in a thread, what the session has still to have called is called in its order,
and the session hands nothing over any more. -/
theorem step_proceeds (hsuperseded : w.Superseded epoch) (hshape : Shape t.calls) :
    t.Proceeds epoch (t.calling epoch) (w.step t).2 := by
  obtain ⟨calls, value⟩ := t
  -- a thread in which the session is not at the bottom
  have hstranger : Thread.calling epoch ⟨calls, value⟩ = [] → callOf epoch calls = none →
      callOf epoch (w.step ⟨calls, value⟩).2.calls = none →
      Thread.Proceeds epoch (Thread.calling epoch ⟨calls, value⟩) ⟨calls, value⟩
        (w.step ⟨calls, value⟩).2 := by
    intro hcalling hcall hcall'
    refine proceeds_of_no_delivery hcalling ?_ (by simp [hcall'])
    rw [Thread.ahead, hcall]
    rfl
  rcases hshape.bottom with hnone | ⟨above, s, hcalls, habove⟩
  · refine hstranger ?_ (callOf_sessionless hnone) (callOf_sessionless (w.step_sessionless hnone))
    unfold Thread.calling
    split
    next s heq =>
      obtain rfl := heq
      exact absurd rfl (hnone (.session s) (by simp))
    next => rfl
  · obtain rfl : calls = above ++ [.session s] := hcalls
    by_cases hs : s = epoch
    · subst hs
      cases above with
      | nil =>
          obtain ⟨above, hcalls, habove⟩ := hsuperseded.callOf_runSession value
          refine proceeds_of_no_delivery rfl rfl fun d hd => ?_
          change d ∈ callOf s (w.runSession s value []).2 at hd
          rcases hcalls with hcalls | hcalls
          · rw [hcalls] at hd
            cases hd
          · rw [hcalls, callOf_session, if_pos rfl] at hd
            rcases habove with rfl | ⟨actions, rfl⟩
            · cases hd
            · obtain rfl := Option.some.inj hd
              exact ⟨rfl, rfl⟩
      | cons c above =>
          rcases List.eq_nil_or_concat above with rfl | ⟨above, d, rfl⟩
          · exact w.step_proceeds_top (habove c List.mem_cons_self) value rfl
          · exact w.step_proceeds_lower c d above value (by simp)
    · have hbelow : callOf epoch (w.step ⟨above ++ [.session s], value⟩).2.calls = none := by
        have hover : (w.step ⟨above ++ [.session s], value⟩).2.calls = [] ∨
            ∃ more, (w.step ⟨above ++ [.session s], value⟩).2.calls = more ++ [.session s] := by
          cases above with
          | nil =>
              change (w.runSession s value []).2 = [] ∨
                ∃ more, (w.runSession s value []).2 = more ++ [.session s]
              unfold runSession
              split
              · exact .inl rfl
              · split
                · exact .inr ⟨_, rfl⟩
                · exact .inl rfl
                · exact .inl rfl
          | cons c above => exact w.step_over above s value
        rcases hover with hcalls | ⟨more, hcalls⟩
        · rw [hcalls]; rfl
        · rw [hcalls, callOf_session, if_neg hs]
      refine hstranger ?_ (by rw [callOf_session, if_neg hs]) hbelow
      unfold Thread.calling
      split
      next heq =>
        have hlast := congrArg List.getLast? heq
        simp only [List.getLast?_append, List.getLast?_cons_cons, List.getLast?_singleton,
          Option.some_or, Option.some.injEq, Call.session.injEq] at hlast
        exact if_neg fun hepoch => hs (hlast.trans hepoch)
      next => rfl

end Step

end World

namespace Thread

variable {epoch : UInt64} {t t' t'' : Thread} {called next : List (Event × HandlerId)}

/-- Exchanging the two calls on top does not concern what lies below them. -/
theorem callOf_exchange {a b a' b' : Call} (hb : b.role ≠ .session) (hb' : b'.role ≠ .session)
    (calls : List Call) :
    callOf epoch (a :: b :: calls) = callOf epoch (a' :: b' :: calls) ∨
      callOf epoch (a :: b :: calls) = some b ∧ callOf epoch (a' :: b' :: calls) = some b' := by
  have hnone : ∀ {c d : Call}, d.role ≠ .session → callOf epoch [c, d] = none := by
    intro c d hd
    cases d with
    | session => exact absurd rfl hd
    | _ => rfl
  rcases List.eq_nil_or_concat calls with rfl | ⟨calls, c, rfl⟩
  · exact .inl ((hnone hb).trans (hnone hb').symm)
  · cases c with
    | session s =>
        rcases List.eq_nil_or_concat calls with rfl | ⟨calls, d, rfl⟩
        · have heq : ∀ c d : Call, callOf epoch [c, d, .session s] =
              if s = epoch then some d else none := fun c d => callOf_above epoch s [c] d
          simp only [List.concat_eq_append, List.nil_append, heq]
          split
          · exact .inr ⟨rfl, rfl⟩
          · exact .inl rfl
        · have heq : ∀ c c' : Call, callOf epoch (c :: c' :: (calls ++ [d] ++ [.session s])) =
              if s = epoch then some d else none := fun c c' => by
            simpa using callOf_above epoch s (c :: c' :: calls) d
          simp only [List.concat_eq_append, heq, true_or]
    | _ => exact .inl (by simp [callOf])

/-- A callback that makes up its mind is no delivery. -/
theorem proceeds_decide (t : Thread) (actions : List Action) (ending : Ending) :
    t.Proceeds epoch [] (t.decide actions ending) := by
  have hexchange : ∀ {a b a' b' : Call} {calls : List Call} {t' : Thread},
      t.calls = a :: b :: calls → t'.calls = a' :: b' :: calls → b.role ≠ .session →
      b'.role ≠ .session → b.ahead = [] → b'.ahead = [] → b'.event? = none →
      t.Proceeds epoch [] t' := by
    intro a b a' b' calls t' hcalls hcalls' hb hb' hahead hahead' hevent'
    rcases @callOf_exchange epoch a b a' b' hb hb' calls with hsame | ⟨hcall, hcall'⟩
    · refine .keeps rfl ?_ fun e he => ?_
      · rw [ahead, ahead, hcalls, hcalls', hsame]
      · rwa [handsOver?, hcalls, hsame, ← hcalls']
    · refine .keeps rfl ?_ fun e he => ?_
      · rw [ahead, ahead, hcalls, hcalls', hcall, hcall']
        exact hahead'.trans hahead.symm
      · rw [handsOver?, hcalls', hcall', Option.bind_some, hevent'] at he
        cases he
  unfold decide
  split
  next hcalls =>
    exact hexchange hcalls rfl (by simp [Call.role]) (by simp [Call.role]) rfl rfl rfl
  next hcalls =>
    exact hexchange hcalls rfl (by simp [Call.role]) (by simp [Call.role]) rfl rfl rfl
  next => exact .keeps rfl rfl fun e he => he

/-- What a session has had called since a thread was in some state: as much of the delivery that was
under way, or of the event that it had handed over, as is not still to be called. -/
structure Owes (epoch : UInt64) (called : List (Event × HandlerId)) (t t' : Thread) : Prop where
  settled : t.handsOver? epoch = none →
    called ++ t'.ahead epoch = t.ahead epoch ∧ t'.handsOver? epoch = none
  fresh : ∀ e, t.handsOver? epoch = some e →
    (∀ x ∈ called ++ t'.ahead epoch, x.1 = e) ∧ ∀ e', t'.handsOver? epoch = some e' → e' = e

theorem Owes.refl (epoch : UInt64) (t : Thread) : Owes epoch [] t t := by
  refine ⟨fun hnone => ⟨rfl, hnone⟩, fun e he => ⟨?_, fun e' he' => ?_⟩⟩
  · -- a delivery that is yet to start has called nobody
    have hahead : t.ahead epoch = [] := by
      rw [ahead]
      rw [handsOver?] at he
      cases hcall : callOf epoch t.calls with
      | none => rfl
      | some c =>
          rw [hcall] at he
          cases c with
          | deliver => rfl
          | _ => cases he
    rw [hahead]
    exact List.forall_mem_nil _
  · exact Option.some.inj (he'.symm.trans he)

theorem Owes.proceed (h : Owes epoch called t t') (hnext : t'.Proceeds epoch next t'') :
    Owes epoch (called ++ next) t t'' := by
  cases hnext with
  | keeps hcalling hahead hevent =>
      rw [hcalling, List.append_nil]
      refine ⟨fun hnone => ?_, fun e he => ?_⟩
      · obtain ⟨hcalled, hnone'⟩ := h.settled hnone
        refine ⟨hahead ▸ hcalled, Option.eq_none_iff_forall_ne_some.mpr fun e he => ?_⟩
        rw [hevent e he] at hnone'
        cases hnone'
      · obtain ⟨hcalled, hsame⟩ := h.fresh e he
        exact ⟨hahead ▸ hcalled, fun e' he' => hsame e' (hevent e' he')⟩
  | calls _ hnone' hahead =>
      have hcalled : called ++ t'.ahead epoch = called ++ next ++ t''.ahead epoch := by
        rw [hahead, List.append_assoc]
      refine ⟨fun hnone => ⟨hcalled ▸ (h.settled hnone).1, hnone'⟩,
        fun e he => ⟨hcalled ▸ (h.fresh e he).1, fun e' he' => ?_⟩⟩
      rw [hnone'] at he'
      cases he'
  | @starts e' he' hnone' hcalling hahead =>
      rw [hcalling, List.append_nil]
      refine ⟨fun hnone => ?_, fun e he => ⟨?_, fun e'' he'' => ?_⟩⟩
      · rw [(h.settled hnone).2] at he'
        cases he'
      · obtain ⟨hcalled, hsame⟩ := h.fresh e he
        obtain rfl := hsame e' he'
        refine List.forall_mem_append.mpr ⟨?_, hahead⟩
        exact fun x hx => hcalled x (List.mem_append_left _ hx)
      · rw [hnone'] at he''
        cases he''

end Thread

/-! ## Runs -/

namespace Pool

/-- A thread, which has no calls if it does not exist. -/
def thread (p : Pool) (i : Nat) : Thread := (p.threads[i]?).getD {}

/-- The handlers that are called in a thread by deliveries for the session of an epoch. -/
def calling (i : Nat) (epoch : UInt64) : Pool → Move → List (Event × HandlerId) :=
  seenAt i (Thread.calling epoch)

variable {p : Pool} {m : Move} {i : Nat} {epoch : UInt64}

/-- A thread that joins is at the beginning of what it does. -/
theorem calls_of_join {t : Thread} (hnone : p.threads[i]? = none)
    (ht : (p.move m).threads[i]? = some t) :
    (∃ actions, t.calls = [.actions actions]) ∨ ∃ epoch, t.calls = [.session epoch] := by
  have hlength : p.threads.length ≤ i := List.getElem?_eq_none_iff.mp hnone
  have hjoin : ∀ {t' : Thread}, (p.threads ++ [t'])[i]? = some t → t' = t := by
    intro t' ht'
    rw [List.getElem?_append_right hlength] at ht'
    exact List.mem_singleton.mp (List.mem_of_getElem? ht') |>.symm
  cases m with
  | begin actions => exact .inl ⟨actions, congrArg Thread.calls (hjoin ht).symm⟩
  | poll epoch =>
      simp only [move] at ht
      split at ht
      · rw [hnone] at ht
        cases ht
      · exact .inr ⟨epoch, congrArg Thread.calls (hjoin ht).symm⟩
  | step j =>
      simp only [move] at ht
      split at ht
      · rw [List.getElem?_eq_none (by simpa using hlength)] at ht
        cases ht
      · rw [hnone] at ht
        cases ht
  | decide j actions ending =>
      simp only [move] at ht
      rw [List.getElem?_eq_none (by simpa using hlength)] at ht
      cases ht
  | tick time =>
      have hnone' : (p.move (.tick time)).threads[i]? = none := hnone
      rw [hnone'] at ht
      cases ht

theorem move_proceeds (hsuperseded : p.world.Superseded epoch) (hshape : p.Shaped) :
    (p.thread i).Proceeds epoch (p.calling i epoch m) ((p.move m).thread i) := by
  cases hi : p.threads[i]? with
  | some t =>
      have ht : p.thread i = t := by rw [thread, hi, Option.getD_some]
      have hthread : ∀ {t'}, (p.move m).threads[i]? = some t' → (p.move m).thread i = t' :=
        fun ht' => by rw [thread, ht', Option.getD_some]
      rw [ht]
      rcases move_thread hi m with ⟨rfl, hstep⟩ | ⟨hm, hother⟩
      · rw [hthread hstep, calling, seenAt_step hi]
        exact World.step_proceeds hsuperseded (hshape t (List.mem_of_getElem? hi))
      · rw [calling, seenAt_of_ne hm]
        rcases hother with hsame | ⟨actions, ending, hdecide⟩
        · rw [hthread hsame]
          exact .keeps rfl rfl fun e he => he
        · rw [hthread hdecide]
          exact t.proceeds_decide actions ending
  | none =>
      have ht : p.thread i = {} := by rw [thread, hi, Option.getD_none]
      have hcalling : p.calling i epoch m = [] := by
        by_cases hm : m = .step i
        · simp [hm, calling, seenAt, hi]
        · exact seenAt_of_ne hm
      have hcall : callOf epoch ((p.move m).thread i).calls = none := by
        rw [thread]
        cases hi' : (p.move m).threads[i]? with
        | none => rfl
        | some t =>
            rw [Option.getD_some]
            rcases calls_of_join hi hi' with ⟨actions, hcalls⟩ | ⟨s, hcalls⟩ <;> rw [hcalls] <;> rfl
      have hquiet : Thread.calling epoch {} = [] := rfl
      rw [ht, hcalling, ← hquiet]
      exact World.proceeds_of_no_delivery hquiet rfl (by simp [hcall])

/-- A session that has been superseded has the rest of its delivery called, and nothing else. -/
theorem run_owes (moves : List Move) (hshape : p.Shaped)
    (hsuperseded : ∀ before, before <+: moves → (p.run before).world.Superseded epoch) :
    Thread.Owes epoch (p.trace (calling i epoch) moves) (p.thread i) ((p.run moves).thread i) := by
  induction moves using List.reverseRecOn with
  | nil => exact .refl epoch _
  | append_singleton moves m ih =>
      rw [trace_concat, run_concat]
      have hearlier := ih fun before hbefore =>
        hsuperseded before (hbefore.trans (List.prefix_append _ _))
      exact hearlier.proceed
        (move_proceeds (hsuperseded moves (List.prefix_append _ _)) (run_shaped moves hshape))

end Pool

end EventFeed.Simulation
