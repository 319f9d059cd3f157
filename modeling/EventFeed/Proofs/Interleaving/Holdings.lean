import EventFeed.Proofs.Interleaving.Moves
import EventFeed.Proofs.Interleaving.Views
import Mathlib.Data.List.Basic

/-! # What a world holds

Besides its manager, a world holds the subscriptions, what has come in on each connection and has
not been read, and the memory of its callbacks. Only actions, callbacks and sessions concern any of
it.
-/

namespace EventFeed.Simulation

structure Holdings where
  registry : Registry HandlerId
  /-- What waits to be read on each connection. -/
  inboxes : List (List Inbound)
  scenario : Scenario
  handlerCalls : List String
  observerCalls : List String

def World.holdings (w : World) : Holdings :=
  ⟨w.registry, w.inboxes, w.scenario, w.handlerCalls, w.observerCalls⟩

/-- Whether a call can change what a world holds. -/
def Call.touches : Call → Bool
  | .actions (_ :: _) | .handlers _ (_ :: _) _ | .observer .. | .session _ => true
  | _ => false

namespace World

theorem holdings_overlooks : OverlooksManager World.holdings where
  turns _ _ _ := rfl
  note _ _ _ := rfl
  observers _ _ _ _ := rfl
  manager _ _ _ _ _ _ := rfl

variable (w : World)

@[simp] theorem report_holdings (r : LogRecord) : (w.report r).holdings = w.holdings :=
  holdings_overlooks.report w r

/-- A change to a connection that leaves its inbox alone leaves everything alone that is held. -/
theorem setLink_holdings {n : Nat} {link link' : Link} (hlink : w.link? n = some link)
    (hinbox : link'.inbox = link.inbox) : (w.setLink n link').holdings = w.holdings := by
  obtain ⟨hn, rfl⟩ := List.getElem?_eq_some_iff.mp hlink
  have hset : (w.links.set n link').map Link.inbox = w.links.map Link.inbox := by
    rw [List.map_set, hinbox, ← List.map_set, List.set_getElem_self]
  simp only [holdings, inboxes, setLink, hset]

theorem release_holdings (n : Nat) : (w.release n).holdings = w.holdings := by
  unfold release
  split
  next link hlink => exact w.setLink_holdings hlink rfl
  next => rfl

theorem startSend_holdings (n : Nat) : (w.startSend n).2.holdings = w.holdings := by
  unfold startSend
  split
  next link hlink => exact w.setLink_holdings hlink rfl
  next => rfl

/-! ## Callbacks and the far side -/

/-- A callback that is called is remembered, and nothing else comes of the call at once. -/
theorem callHandler_holdings (event : Event) (h : HandlerId) :
    ∃ handlerCalls, (w.callHandler event h).1.holdings = { w.holdings with handlerCalls } := by
  cases h with
  | eventLogger => exact ⟨_, w.report_holdings _⟩
  | scripted name => exact ⟨_, rfl⟩

theorem callObserver_holdings (next : ConnectionState) (o : ObserverId) :
    ∃ observerCalls,
      (w.callObserver next o).1.holdings = { w.holdings with observerCalls } := by
  cases o with
  | notifier =>
      exact ⟨_, holdings_overlooks.callNotifier w next (fun _ _ => rfl) fun _ _ => rfl⟩
  | scripted name =>
      simp only [callObserver]
      split <;> exact ⟨_, rfl⟩

/-- What waits to be read when the far side has sent something on a connection. -/
def inboxesReceived (item : Inbound) (n : Nat) : List (List Inbound) :=
  if (w.receive item n).1 then w.inboxes.modify n (· ++ [item]) else w.inboxes

theorem receive_holdings (item : Inbound) (n : Nat) :
    (w.receive item n).2.holdings =
      { w.holdings with inboxes := w.inboxesReceived item n } := by
  unfold inboxesReceived receive
  cases hlink : w.link? n with
  | none => rfl
  | some link =>
      cases hreleased : link.released with
      | true => simp [hreleased, holdings]
      | false =>
          have hset : (w.setLink n { link with inbox := link.inbox ++ [item] }).holdings =
              { w.holdings with inboxes := w.inboxes.modify n (· ++ [item]) } := by
            obtain ⟨hn, rfl⟩ := List.getElem?_eq_some_iff.mp hlink
            have hlength : n < w.inboxes.length := by simpa [inboxes] using hn
            rw [List.modify_eq_set_get _ hlength]
            simp [holdings, inboxes, setLink, List.map_set]
          rw [hreleased] at hset
          simp only [hreleased, Bool.false_eq_true, if_false]
          split
          · exact (holdings_overlooks.wake _ _).trans hset
          · exact hset

/-- What a world holds is left alone by a call that has nothing to do with it. -/
theorem step_holdings {c : Call} {calls : List Call} {value : Value} (hc : c.touches = false) :
    (w.step ⟨c :: calls, value⟩).1.holdings = w.holdings := by
  refine holdings_overlooks.step w (fun epoch hhead => ?_) (fun a rest hhead => ?_)
    (fun e i rest o hhead => ?_) (fun o next hhead => ?_)
    fun _ calls _ _ => holdings_overlooks.unwind w calls
  all_goals
    obtain rfl := Option.some.inj hhead
    cases hc

/-! ## Sessions -/

section Sessions

@[simp] theorem inboxes_holdings : w.holdings.inboxes = w.inboxes := rfl

/-- What waits to be read after a session has gone on: it takes what is first, if it is its turn to
read, and a connection that has been accepted may hold something already. -/
def inboxesAfter (epoch : UInt64) : Activity → List (List Inbound)
  | .answering script _ =>
    match script.answer with
    | .accept => w.inboxes ++ [script.items]
    | _ => w.inboxes
  | .serving n h =>
    match h.turn w.now (w.lifecycle.isStopped epoch) (w.inbox n) with
    | .read _ rest => w.inboxes.set n rest
    | _ => w.inboxes
  | _ => w.inboxes

/-- Reading takes what is first out of the inbox of a connection. -/
theorem setInbox_holdings (n : Nat) (rest : List Inbound) :
    (w.setInbox n rest).holdings = { w.holdings with inboxes := w.inboxes.set n rest } := by
  unfold setInbox
  split
  next link _ => simp [holdings, inboxes, setLink, List.map_set]
  next hnone =>
    have hn : w.inboxes.length ≤ n := by
      rw [inboxes, List.length_map]
      exact List.getElem?_eq_none_iff.mp hnone
    rw [List.set_eq_of_length_le hn]
    rfl

/-- A session reads what has come in on its connection, and touches nothing else. -/
theorem stepSession_holdings (s : Session) (a : Activity) (value : Value) :
    (w.stepSession s a value).1.holdings =
      { w.holdings with inboxes := w.inboxesAfter s.epoch a } := by
  cases ha : a.handlesLink with
  | false =>
      have hquiet : w.inboxesAfter s.epoch a = w.inboxes := by
        cases a with
        | answering | serving => cases ha
        | _ => rfl
      rw [hquiet]
      exact holdings_overlooks.stepSession w s value ha
  | true =>
      have hcomes := w.stepSession_comes s a value
      generalize w.stepSession s a value = r at hcomes ⊢
      cases hcomes with
      | accept haccept => simp [inboxesAfter, haccept, holdings, inboxes]
      | refuse hrefuse => simp [inboxesAfter, hrefuse, holdings]
      | hang hhang | giveUpHanging hhang => simp [inboxesAfter, hhang, holdings]
      | tooLateToConnect _ hreported =>
          subst hreported
          exact (startSend_holdings _ _).trans (w.report_holdings _)
      | stop hturn | probe hturn =>
          simp only [inboxesAfter, hturn]
          exact w.startSend_holdings _
      | lapse hturn | idle hturn => simp [inboxesAfter, hturn, holdings]
      | deliver hturn | acknowledge hturn | cutOff hturn =>
          simp only [inboxesAfter, hturn]
          exact w.setInbox_holdings _ _
      | overhear hturn | drop hturn =>
          simp only [inboxesAfter, hturn]
          exact (report_holdings _ _).trans (w.setInbox_holdings _ _)
      | pinged => exact report_holdings _ _
      | failClose => exact w.report_holdings _
      | lose => exact (report_holdings _ _).trans (w.release_holdings _)
      | hangUp => exact holdings_overlooks.hangUp w (fun w => w.release_holdings _) _
      | connect | failPing | giveUpPing | awaitPing | closed | awaitClose => rfl
      | _ => cases ha

/-- What a session that is not there reads is nothing. -/
theorem runSession_holdings (epoch : UInt64) (value : Value) (below : List Call) :
    (w.runSession epoch value below).1.holdings =
      { w.holdings with inboxes :=
          ((w.task? epoch).map fun t => w.inboxesAfter epoch t.activity).getD w.inboxes } := by
  cases htask : w.task? epoch with
  | none =>
      rw [runSession_absent htask]
      rfl
  | some task =>
      obtain rfl := epoch_of_task? htask
      exact (holdings_overlooks.runSession w htask value below).trans
        (w.stepSession_holdings task.session task.activity value)

end Sessions

end World

end EventFeed.Simulation
