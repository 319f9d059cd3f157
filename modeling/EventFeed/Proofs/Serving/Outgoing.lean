import EventFeed.Proofs.Serving.Inbox

/-! # What goes out on a connection

A connection counts the sends that are started on it, and the journal holds the frames that it has
taken. Only sessions send: nothing else that happens in a world concerns either.
-/

namespace EventFeed.Simulation

/-- The frame that has gone out on a connection, if that is what has happened. -/
def Entry.sentOn? (n : Nat) : Entry → Option Outbound
  | .sent k frame => if k = n then some frame else none
  | _ => none

structure Outgoing where
  /-- The number of connections that have been opened. -/
  opened : Nat
  /-- The number of sends that have been started on one of them. -/
  started : Nat
  /-- The frames that it has taken, earliest first. -/
  sent : List Outbound

/-- The connections that have been opened, and what has gone out on one of them. -/
def World.outgoing (w : World) (n : Nat) : Outgoing where
  opened := w.links.length
  started := ((w.link? n).map Link.started).getD 0
  sent := w.journal.reverse.filterMap fun entry => entry.2.sentOn? n

namespace World

variable (w : World) {n : Nat}

theorem note_outgoing (e : Entry) :
    (w.note e).outgoing n =
      { w.outgoing n with sent := (w.outgoing n).sent ++ (e.sentOn? n).toList } := by
  simp only [outgoing, note, link?, List.reverse_cons, List.filterMap_append]
  cases h : e.sentOn? n <;> simp [h]

theorem note_outgoing_of_none {e : Entry} (h : e.sentOn? n = none) :
    (w.note e).outgoing n = w.outgoing n := by
  rw [note_outgoing, h, Option.toList_none, List.append_nil]

theorem outgoing_overlooks (n : Nat) : OverlooksManager fun w => w.outgoing n where
  turns _ _ _ := rfl
  note w e he := by
    refine w.note_outgoing_of_none ?_
    cases e with
    | sent => cases he
    | _ => rfl
  observers _ _ _ _ := rfl
  manager _ _ _ _ _ _ := rfl

theorem outgoing_overlooks_callbacks (n : Nat) : OverlooksCallbacks fun w => w.outgoing n :=
  { outgoing_overlooks n with callbacks := fun _ _ _ _ => rfl }

@[simp] theorem report_outgoing (r : LogRecord) : (w.report r).outgoing n = w.outgoing n :=
  (outgoing_overlooks n).report w r

/-- A change to a connection that starts no send on it. -/
theorem setLink_outgoing {k : Nat} {link link' : Link} (hlink : w.link? k = some link)
    (hstarted : link'.started = link.started) : (w.setLink k link').outgoing n = w.outgoing n := by
  obtain ⟨hk, rfl⟩ := List.getElem?_eq_some_iff.mp hlink
  have hstart : ((w.links.set k link')[n]?.map Link.started) = w.links[n]?.map Link.started := by
    rw [← List.getElem?_map, ← List.getElem?_map, List.map_set, hstarted, ← List.map_set,
      List.set_getElem_self]
  simp only [outgoing, link?, setLink, List.length_set, hstart]

theorem release_outgoing (k : Nat) : (w.release k).outgoing n = w.outgoing n := by
  unfold release
  split
  next link hlink =>
    exact (note_outgoing_of_none _ rfl).trans (w.setLink_outgoing hlink rfl)
  next => rfl

theorem receive_outgoing (item : Inbound) (k : Nat) :
    (w.receive item k).2.outgoing n = w.outgoing n :=
  (outgoing_overlooks n).receive w fun _ hlink => w.setLink_outgoing hlink rfl

theorem perform_outgoing (a : Action) : (w.perform a).1.outgoing n = w.outgoing n :=
  (outgoing_overlooks_callbacks n).perform w (fun _ => (outgoing_overlooks n).connect w)
    (fun _ => (outgoing_overlooks n).disconnect w) fun item _ k _ => w.receive_outgoing item k

theorem callObserver_outgoing (next : ConnectionState) (o : ObserverId) :
    (w.callObserver next o).1.outgoing n = w.outgoing n := by
  cases o with
  | notifier =>
      exact (outgoing_overlooks n).callNotifier w next (fun _ _ => rfl)
        fun w _ => w.note_outgoing_of_none rfl
  | scripted name => exact (outgoing_overlooks_callbacks n).callObserver w next name

/-- Whoever goes on, nothing goes out unless it is a session. -/
theorem step_outgoing {t : Thread} (ht : ∀ epoch, t.calls.head? ≠ some (.session epoch)) :
    (w.step t).1.outgoing n = w.outgoing n :=
  (outgoing_overlooks n).step w ht (fun a _ _ => w.perform_outgoing a)
    (fun e i _ _ _ => (outgoing_overlooks_callbacks n).callHandler w e i)
    (fun o next _ => w.callObserver_outgoing next o)
    fun _ calls _ _ => (outgoing_overlooks n).unwind w calls

/-! ## Sessions -/

/-- The frames that a session starts to send on a connection when it goes on. -/
def begins (n : Nat) (epoch : UInt64) : Activity → List Outbound
  | .serving k h =>
    match h.turn w.now (w.lifecycle.isStopped epoch) (w.inbox k) with
    | .ping => if k = n then [.ping w.now] else []
    | .stop => if k = n then [.close] else []
    | _ => []
  | .accepted k => if k = n ∧ w.lifecycle.epoch ≠ epoch then [.close] else []
  | _ => []

/-- The frames that a connection has taken when the session that sends them goes on. -/
def completes (n : Nat) : Activity → List Outbound
  | .pinging k _ (.ends time) _ => if k = n ∧ time ≤ w.now then [.ping w.now] else []
  | .closing k _ (.ends time) => if k = n ∧ time ≤ w.now then [.close] else []
  | _ => []

end World

/-- The number of connections that are opened when a session at an activity goes on. -/
def Activity.opens : Activity → Nat
  | answering script _ => if script.answer = .accept then 1 else 0
  | _ => 0

namespace World

variable {w : World} {n : Nat}

/-- What has gone out after a session has gone on. -/
def outgoingAfter (w : World) (n : Nat) (epoch : UInt64) (a : Activity) : Outgoing where
  opened := (w.outgoing n).opened + a.opens
  started := (w.outgoing n).started + (w.begins n epoch a).length
  sent := (w.outgoing n).sent ++ w.completes n a

theorem outgoingAfter_of_idle {epoch : UInt64} {a : Activity} (hopens : a.opens = 0)
    (hbegins : w.begins n epoch a = []) (hcompletes : w.completes n a = []) :
    w.outgoingAfter n epoch a = w.outgoing n := by
  simp [outgoingAfter, hopens, hbegins, hcompletes]

theorem startSend_outgoing {k : Nat} (hk : k < w.links.length) :
    (w.startSend k).2.outgoing n =
      { w.outgoing n with started := (w.outgoing n).started + if k = n then 1 else 0 } := by
  have hlink : w.link? k = some w.links[k] := List.getElem?_eq_getElem hk
  simp only [startSend, hlink]
  by_cases hkn : k = n
  · subst hkn
    simp [outgoing, setLink, link?, hk]
  · simp [outgoing, setLink, link?, hkn]

/-- A session that starts to send a frame on a connection does nothing else with it. -/
theorem outgoingAfter_of_begins {w' : World} {epoch : UInt64} {a : Activity} {k : Nat}
    (frame : Outbound) (hw : w'.outgoing n = w.outgoing n) (hk : k < w.links.length)
    (hopens : a.opens = 0) (hbegins : w.begins n epoch a = if k = n then [frame] else [])
    (hcompletes : w.completes n a = []) :
    (w'.startSend k).2.outgoing n = w.outgoingAfter n epoch a := by
  have hk' : k < w'.links.length := Nat.lt_of_lt_of_eq hk (congrArg Outgoing.opened hw).symm
  rw [startSend_outgoing hk', hw, outgoingAfter, hopens, hbegins, hcompletes]
  by_cases hkn : k = n <;> simp [hkn]

/-- A connection that is accepted has sent nothing yet. -/
theorem accept_outgoing {script : OpenScript} (limit : Nat) (epoch : UInt64)
    (haccept : script.answer = .accept) :
    ({ w with links := w.links ++ [⟨script.items, script.sink, 0, false⟩] } : World).outgoing n =
      w.outgoingAfter n epoch (.answering script limit) := by
  have hstarted : ((w.links ++ [(⟨script.items, script.sink, 0, false⟩ : Link)])[n]?.map
      Link.started).getD 0 = (w.links[n]?.map Link.started).getD 0 := by
    rcases Nat.lt_trichotomy n w.links.length with hlt | rfl | hlt
    · rw [List.getElem?_append_left hlt]
    · simp
    · have hle : (w.links ++ [(⟨script.items, script.sink, 0, false⟩ : Link)]).length ≤ n := by
        rw [List.length_append, List.length_singleton]
        exact hlt
      rw [List.getElem?_eq_none hle, List.getElem?_eq_none (Nat.le_of_lt hlt)]
  simp [outgoing, outgoingAfter, link?, Activity.opens, haccept, begins, completes, hstarted]

theorem setInbox_outgoing (k : Nat) (rest : List Inbound) :
    (w.setInbox k rest).outgoing n = w.outgoing n := by
  unfold setInbox
  split
  next hlink => exact w.setLink_outgoing hlink rfl
  next => rfl

end World

theorem Sending.result?_eq_ok {sending : Sending} {now : Nat} :
    sending.result? now = some (.ok ()) ↔ ∃ time ≤ now, sending = .ends time := by
  cases sending with
  | ends time => simp [result?]
  | fails time e => simp [result?]
  | never => simp [result?]

/-- The send that a session at an activity waits for. -/
def Activity.sending? : Activity → Option Sending
  | pinging _ _ sending _ | closing _ _ sending => some sending
  | _ => none

namespace World

variable {w : World} {n : Nat}

/-- A send that is under way or has failed completes nothing. -/
theorem completes_eq_nil {a : Activity}
    (h : ∀ sending ∈ a.sending?, sending.result? w.now ≠ some (.ok ())) :
    w.completes n a = [] := by
  have hlate : ∀ time, Sending.result? w.now (.ends time) ≠ some (.ok ()) → ¬ time ≤ w.now :=
    fun time hresult htime => hresult (Sending.result?_eq_ok.mpr ⟨time, htime, rfl⟩)
  cases a with
  | pinging k heartbeat sending limit | closing k requested sending =>
      cases sending with
      | ends time => simp [completes, hlate time (h _ rfl)]
      | _ => rfl
  | _ => rfl

/-- A session sends on its connection as it says, and nothing else goes out. -/
theorem stepSession_outgoing (s : Session) {a : Activity} (value : Value)
    (hlink : ∀ k, a.link? = some k → k < w.links.length) :
    (w.stepSession s a value).1.outgoing n = w.outgoingAfter n s.epoch a := by
  have hidle : ∀ {w' : World}, w'.outgoing n = w.outgoing n → a.opens = 0 →
      w.begins n s.epoch a = [] → w.completes n a = [] →
      w'.outgoing n = w.outgoingAfter n s.epoch a := fun hw hopens hbegins hcompletes =>
    hw.trans (outgoingAfter_of_idle hopens hbegins hcompletes).symm
  cases ha : a.handlesLink with
  | false =>
      refine hidle ((outgoing_overlooks n).stepSession w s value ha) ?_ ?_ ?_
      all_goals cases a with
      | answering | accepted | serving | pinging | losing | closing | hangingUp => cases ha
      | _ => rfl
  | true =>
      have hcomes := w.stepSession_comes s a value
      generalize w.stepSession s a value = r at hcomes ⊢
      cases hcomes with
      | accept haccept => exact accept_outgoing _ s.epoch haccept
      | refuse hanswer | hang hanswer | giveUpHanging hanswer =>
          exact hidle rfl (by simp [Activity.opens, hanswer]) rfl rfl
      | connect hl =>
          have hepoch : w.lifecycle.epoch = s.epoch := (Lifecycle.advance?_eq_some.mp hl).1
          exact hidle rfl rfl (by simp [begins, hepoch]) rfl
      | tooLateToConnect hlate hreported =>
          subst hreported
          exact outgoingAfter_of_begins .close (w.report_outgoing _) (hlink _ rfl) rfl
            (by simp [begins, hlate]) rfl
      | stop hturn =>
          exact outgoingAfter_of_begins .close rfl (hlink _ rfl) rfl (by simp [begins, hturn]) rfl
      | probe hturn =>
          exact outgoingAfter_of_begins (.ping w.now) rfl (hlink _ rfl) rfl
            (by simp [begins, hturn]) rfl
      | lapse hturn | idle hturn => exact hidle rfl rfl (by simp [begins, hturn]) rfl
      | deliver hturn | acknowledge hturn | cutOff hturn =>
          exact hidle (setInbox_outgoing _ _) rfl (by simp [begins, hturn]) rfl
      | overhear hturn | drop hturn =>
          exact hidle ((report_outgoing _ _).trans (setInbox_outgoing _ _)) rfl
            (by simp [begins, hturn]) rfl
      | @pinged k heartbeat sending limit hresult =>
          obtain ⟨time, htime, rfl⟩ := Sending.result?_eq_ok.mp hresult
          rw [report_outgoing, note_outgoing]
          by_cases hk : k = n <;>
            simp [outgoingAfter, begins, completes, Activity.opens, Entry.sentOn?, hk, htime]
      | @closed k requested sending hresult =>
          obtain ⟨time, htime, rfl⟩ := Sending.result?_eq_ok.mp hresult
          rw [note_outgoing]
          by_cases hk : k = n <;>
            simp [outgoingAfter, begins, completes, Activity.opens, Entry.sentOn?, hk, htime]
      | failPing hresult | giveUpPing hresult | awaitPing hresult | awaitClose hresult =>
          refine hidle rfl rfl rfl (completes_eq_nil ?_)
          rintro sending ⟨⟩
          simp [hresult]
      | failClose hresult =>
          refine hidle (w.report_outgoing _) rfl rfl (completes_eq_nil ?_)
          rintro sending ⟨⟩
          simp [hresult]
      | lose => exact hidle ((report_outgoing _ _).trans (w.release_outgoing _)) rfl rfl rfl
      | hangUp =>
          have hrelease := fun w : World => w.release_outgoing (n := n)
          exact hidle ((outgoing_overlooks n).hangUp w (fun w => hrelease w _) _) rfl rfl rfl
      | _ => cases ha

theorem runSession_outgoing {epoch : UInt64} {task : Task} (htask : w.task? epoch = some task)
    (hlink : ∀ k, task.activity.link? = some k → k < w.links.length) (value : Value)
    (below : List Call) :
    (w.runSession epoch value below).1.outgoing n = w.outgoingAfter n epoch task.activity := by
  obtain rfl := epoch_of_task? htask
  exact ((outgoing_overlooks n).runSession w htask value below).trans
    (stepSession_outgoing task.session value hlink)

end World

end EventFeed.Simulation
