import EventFeed.Proofs.Isolation.Essence

/-! # Sessions know only the essence

What a step of a session does to the essence of a world depends on that essence alone. Only the step
after a delivery is taken apart: it looks at what the handlers have done, and does nothing to the
essence.
-/

namespace EventFeed.Simulation

@[simp] theorem OpenScript.essence_essence (script : OpenScript) :
    script.essence.essence = script.essence := by simp [essence]

@[simp] theorem OpenScript.essence_delay (script : OpenScript) :
    script.essence.delay = script.delay := rfl

@[simp] theorem Link.essence_essence (link : Link) : link.essence.essence = link.essence := by
  simp [essence]

@[simp] theorem Activity.essence_essence (a : Activity) : a.essence.essence = a.essence := by
  cases a <;> simp [essence]

@[simp] theorem Task.essence_essence (t : Task) : t.essence.essence = t.essence := by
  simp [essence]

/-- What comes in is read in its turn. -/
theorem turn_essence (h : Heartbeat) (now : Nat) (stopped : Bool) (inbox : List Inbound) :
    h.turn now stopped (inbox.map Inbound.essence) = (h.turn now stopped inbox).essence := by
  unfold Heartbeat.turn
  cases stopped with
  | true => rfl
  | false =>
      cases h.isExpired now with
      | true => rfl
      | false =>
          cases inbox with
          | cons item rest => rfl
          | nil => cases h.isDue now <;> rfl

namespace World

variable (w : World)

@[simp] theorem essence_essence : w.essence.essence = w.essence := by simp [essence]

@[simp] theorem essence_now : w.essence.now = w.now := rfl

@[simp] theorem essence_manager : w.essence.scenario.manager = w.scenario.manager := rfl

@[simp] theorem essence_report (r : LogRecord) : w.essence.report r = w.essence := by
  have hoff : LogThreshold.off.admits r.level = false := by cases r.level <;> rfl
  unfold report
  exact if_neg (by simp [essence, hoff])

@[simp] theorem note_sent_essence (n : Nat) (frame : Outbound) :
    (w.note (.sent n frame)).essence = w.essence.note (.sent n frame) := by
  simp [essence, note, Entry.isSent]

theorem link?_essence (n : Nat) : w.essence.link? n = (w.link? n).map Link.essence := by
  simp [essence, link?]

@[simp] theorem setLink_essence (n : Nat) (link : Link) :
    (w.setLink n link).essence = w.essence.setLink n link.essence := by
  simp [essence, setLink, List.map_set]

@[simp] theorem setTask_essence (task : Task) :
    (w.setTask task).essence = w.essence.setTask task.essence := by
  simp only [essence, setTask, List.map_map]
  congr 1
  refine List.map_congr_left fun t _ => ?_
  have hepoch : t.essence.session.epoch = t.session.epoch := rfl
  have hepoch' : task.essence.session.epoch = task.session.epoch := rfl
  simp only [Function.comp_apply, hepoch, hepoch', apply_ite Task.essence]

@[simp] theorem removeTask_essence (epoch : UInt64) :
    (w.removeTask epoch).essence = w.essence.removeTask epoch := by
  simp only [essence, removeTask, List.filter_map]
  rfl

theorem task?_essence (epoch : UInt64) :
    w.essence.task? epoch = (w.task? epoch).map Task.essence := by
  simp only [essence, task?, List.find?_map]
  rfl

theorem startSend_essence (n : Nat) :
    w.essence.startSend n = ((w.startSend n).1, (w.startSend n).2.essence) := by
  unfold startSend
  rw [link?_essence]
  cases w.link? n with
  | none => rfl
  | some link =>
      dsimp only [Option.map_some]
      rw [setLink_essence]
      rfl

theorem release_essence (n : Nat) : (w.essence.release n).essence = (w.release n).essence := by
  unfold release
  rw [link?_essence]
  cases w.link? n with
  | none => simp
  | some link =>
      have hnote := fun w : World => w.note_essence (e := .released n) rfl
      simp [hnote, Link.essence]

@[simp] theorem setInbox_essence (n : Nat) (inbox : List Inbound) :
    (w.setInbox n inbox).essence = w.essence.setInbox n (inbox.map Inbound.essence) := by
  unfold setInbox
  rw [link?_essence]
  cases w.link? n with
  | none => rfl
  | some link => simp [Link.essence]

@[simp] theorem inbox_essence (n : Nat) : w.essence.inbox n = (w.inbox n).map Inbound.essence := by
  rw [← inbox_eq, ← inbox_eq, link?_essence]
  cases w.link? n <;> rfl

@[simp] theorem nextOpen_essence : w.essence.nextOpen = w.nextOpen.essence := by
  unfold nextOpen
  change (w.opens.map OpenScript.essence).head?.getD w.scenario.fallback.essence = _
  cases w.opens <;> rfl

@[simp] theorem takeOpen_essence : w.essence.takeOpen.essence = w.takeOpen.essence := by
  have hopened : ∀ (w : World) (answer : OpenAnswer), (w.note (.opened answer)).essence =
      w.essence := fun w answer => w.note_essence rfl
  simp only [takeOpen, hopened]
  simp [essence, ← List.map_tail]

theorem hangUp_essence (n : Nat) (requested : Bool) :
    (w.essence.hangUp n requested).1.essence = (w.hangUp n requested).1.essence := by
  have hhangUp : ∀ w : World, (w.hangUp n requested).1.essence = (w.essence.release n).essence := by
    intro w
    have hnote : (w.note (.sinkClosed n)).essence = w.essence := w.note_essence rfl
    have hreport : ∀ w : World,
        (if requested = true then w.report Report.sessionClosed else w).essence = w.essence := by
      intro w
      split
      · exact w.report_essence _
      · rfl
    simp only [hangUp, hreport]
    rw [← release_essence]
    split <;> simp [hnote]
  rw [hhangUp, hhangUp, essence_essence]

/-! ## Steps of sessions -/

/-- What a step of a session means for the connection, the session included. -/
def outline (r : World × Session × Progress) : World × Session × Progress :=
  (r.1.essence, r.2.1, r.2.2.essence)

/-- Every outcome of a step is there for the essence of the world as well. -/
theorem Comes.essence {w : World} {s : Session} {value : Value} {a : Activity}
    {r : World × Session × Progress} (h : w.Comes s value a r) (value' : Value)
    (hdelivered : ∀ n h type, a ≠ .delivered n h type) :
    ∃ r', w.essence.Comes s value' a.essence r' ∧ outline r' = outline r := by
  have hturns : ∀ {n : Nat} {heartbeat : Heartbeat} {turn : Turn},
      heartbeat.turn w.now (w.lifecycle.isStopped s.epoch) (w.inbox n) = turn →
      heartbeat.turn w.essence.now (w.essence.lifecycle.isStopped s.epoch) (w.essence.inbox n) =
        turn.essence := by
    rintro n heartbeat _ rfl
    rw [inbox_essence]
    exact turn_essence heartbeat w.now (w.lifecycle.isStopped s.epoch) (w.inbox n)
  have hreads : ∀ {item : Inbound} {reading : Reading}, item.reading = reading →
      item.essence.reading = reading.essence := by
    rintro item _ rfl
    exact item.reading_essence
  have hadvance : ∀ {next attempts l}, w.lifecycle.advance? s.epoch next attempts = some l →
      ∃ changed, w.essence.lifecycle.advance? s.epoch next attempts = some changed ∧
        changed.essence = l.essence := Lifecycle.advance?_essence
  have hlifecycle : ∀ {w w' : World} {l l'}, w.essence = w'.essence → l.essence = l'.essence →
      ({ w with lifecycle := l } : World).essence =
        ({ w' with lifecycle := l' } : World).essence := by
    intro w w' l l' hw hl
    change ({ w.essence with lifecycle := l.essence } : World) =
      { w'.essence with lifecycle := l'.essence }
    rw [hw, hl]
  cases h with
  | start => exact ⟨_, .start, by simp [outline]⟩
  | stopCalling hstop => exact ⟨_, .stopCalling hstop, by simp [outline]⟩
  | call hgoes => exact ⟨_, .call hgoes, by simp [outline, Progress.essence, Activity.essence]⟩
  | stopOpening hstop => exact ⟨_, .stopOpening hstop, by simp [outline]⟩
  | answer hgoes htime =>
      exact ⟨_, .answer hgoes htime, by simp [outline, Progress.essence, Activity.essence]⟩
  | expire hgoes hready hlimit => exact ⟨_, .expire hgoes hready hlimit, by simp [outline]⟩
  | await hgoes hready hlimit =>
      exact ⟨_, .await hgoes hready hlimit, by simp [outline, Progress.essence, Activity.essence]⟩
  | accept hanswer =>
      refine ⟨_, .accept hanswer, ?_⟩
      simp [outline, World.essence, Link.essence, OpenScript.essence]
  | refuse hanswer => exact ⟨_, .refuse hanswer, by simp [outline]⟩
  | hang hanswer hlimit =>
      exact ⟨_, .hang hanswer hlimit, by simp [outline, Progress.essence, Activity.essence]⟩
  | giveUpHanging hanswer hlimit =>
      exact ⟨_, .giveUpHanging hanswer hlimit, by simp [outline]⟩
  | connect hl =>
      obtain ⟨_, hl', hsame⟩ := hadvance hl
      exact ⟨_, .connect hl', Prod.ext (hlifecycle w.essence_essence hsame) rfl⟩
  | @tooLateToConnect n reported hlate hreported =>
      have hsend := reported.startSend_essence n
      rw [← hreported, report_essence] at hsend
      refine ⟨_, .tooLateToConnect hlate rfl, ?_⟩
      simp [outline, hsend, hreported]
  | greet => exact ⟨_, .greet, by simp [outline]⟩
  | stop hturn => exact ⟨_, .stop (hturns hturn), by simp [outline, startSend_essence]⟩
  | lapse hturn => exact ⟨_, .lapse (hturns hturn), by simp [outline]⟩
  | deliver hturn hreading =>
      refine ⟨_, .overhear (hturns hturn) (hreads hreading), ?_⟩
      simp [outline, Progress.essence, Activity.essence]
  | acknowledge hturn hreading =>
      exact ⟨_, .acknowledge (hturns hturn) (hreads hreading), by simp [outline]⟩
  | overhear hturn hreading =>
      exact ⟨_, .overhear (hturns hturn) (hreads hreading), by simp [outline]⟩
  | drop hturn hreading =>
      exact ⟨_, .overhear (hturns hturn) (hreads hreading), by simp [outline]⟩
  | cutOff hturn hreading =>
      exact ⟨_, .cutOff (hturns hturn) (hreads hreading), by simp [outline]⟩
  | probe hturn => exact ⟨_, .probe (hturns hturn), by simp [outline, startSend_essence]⟩
  | idle hturn => exact ⟨_, .idle (hturns hturn), by simp [outline]⟩
  | serveOn => exact absurd rfl (hdelivered _ _ _)
  | pinged hresult => exact ⟨_, .pinged hresult, by simp [outline]⟩
  | failPing hresult => exact ⟨_, .failPing hresult, by simp [outline]⟩
  | giveUpPing hresult hlimit => exact ⟨_, .giveUpPing hresult hlimit, by simp [outline]⟩
  | awaitPing hresult hlimit => exact ⟨_, .awaitPing hresult hlimit, by simp [outline]⟩
  | lose => exact ⟨_, .lose, by simp [outline, release_essence]⟩
  | fallBack => exact ⟨_, .fallBack, by simp [outline]⟩
  | retreat hl =>
      obtain ⟨_, hl', hsame⟩ := hadvance hl
      exact ⟨_, .retreat hl', Prod.ext (hlifecycle w.essence_essence hsame) rfl⟩
  | tooLateToRetreat hlate => exact ⟨_, .tooLateToRetreat hlate, by simp [outline]⟩
  | giveUp hl =>
      obtain ⟨_, hl', hsame⟩ := hadvance hl
      exact ⟨_, .giveUp hl', Prod.ext (hlifecycle (by simp) hsame) rfl⟩
  | tooLateToGiveUp hlate => exact ⟨_, .tooLateToGiveUp hlate, by simp [outline]⟩
  | delay => exact ⟨_, .delay, by simp [outline]⟩
  | stopWaiting hstop => exact ⟨_, .stopWaiting hstop, by simp [outline]⟩
  | wakeUp hgoes htime => exact ⟨_, .wakeUp hgoes htime, by simp [outline]⟩
  | waitOn hgoes htime => exact ⟨_, .waitOn hgoes htime, by simp [outline]⟩
  | resume hl =>
      obtain ⟨_, hl', hsame⟩ := hadvance hl
      exact ⟨_, .resume hl', Prod.ext (hlifecycle w.essence_essence hsame) rfl⟩
  | tooLateToResume hlate => exact ⟨_, .tooLateToResume hlate, by simp [outline]⟩
  | closed hresult => exact ⟨_, .closed hresult, by simp [outline]⟩
  | failClose hresult => exact ⟨_, .failClose hresult, by simp [outline]⟩
  | awaitClose hresult => exact ⟨_, .awaitClose hresult, by simp [outline]⟩
  | hangUp => exact ⟨_, .hangUp, by simp [outline, hangUp_essence]⟩
  | done => exact ⟨_, .done, by simp [outline]⟩

/-- A step of a session means for the connection what the essence of the world says. -/
theorem stepSession_essence (s : Session) {a : Activity} (value value' : Value)
    (hdelivered : ∀ n h type, a ≠ .delivered n h type) :
    outline (w.essence.stepSession s a.essence value') = outline (w.stepSession s a value) := by
  obtain ⟨r, hcomes, hr⟩ := (w.stepSession_comes s a value).essence value' hdelivered
  rw [hcomes.eq, hr]

theorem setAlarms_essence (task : Task) (wanted : List (AlarmKind × Nat)) :
    (w.setAlarms task wanted).essence = w.essence.setTask task.essence :=
  setTask_essence _ _

/-- The essence in which the result of a step leaves the world. -/
def conclude (epoch : UInt64) (r : World × Session × Progress) : World :=
  match r.2.2 with
  | .goOn a _ | .wait a _ => r.1.setTask ⟨r.2.1, a, []⟩
  | .finish => r.1.removeTask epoch

theorem runSession_conclude {epoch : UInt64} {task : Task} (value : Value) (below : List Call)
    (htask : w.task? epoch = some task) : (w.runSession epoch value below).1.essence =
      conclude epoch (outline (w.stepSession task.session task.activity value)) := by
  cases hstep : w.stepSession task.session task.activity value with
  | mk w' rest =>
    obtain ⟨s, progress⟩ := rest
    cases progress with
    | goOn a calls =>
        rw [runSession_goOn htask hstep]
        exact setTask_essence _ _
    | wait a alarms =>
        rw [runSession_wait htask hstep]
        exact setAlarms_essence _ _ _
    | finish =>
        rw [runSession_finish htask hstep]
        exact removeTask_essence _ _

/-- What a session does to the essence of a world, it does to the world reduced to its essence. -/
theorem runSession_essence {epoch : UInt64} (value value' : Value) (below below' : List Call)
    (hdelivered : ∀ task, w.task? epoch = some task →
      ∀ n h type, task.activity ≠ .delivered n h type) :
    (w.essence.runSession epoch value' below').1.essence =
      (w.runSession epoch value below).1.essence := by
  cases htask : w.task? epoch with
  | none =>
      have htask' : w.essence.task? epoch = none := by rw [task?_essence, htask]; rfl
      rw [runSession_absent htask', runSession_absent htask, essence_essence]
  | some task =>
      have htask' : w.essence.task? epoch = some task.essence := by rw [task?_essence, htask]; rfl
      rw [runSession_conclude _ _ _ htask', runSession_conclude _ _ _ htask]
      exact congrArg _ (w.stepSession_essence task.session value value' (hdelivered task htask))

/-- Nothing is to be done to the connection after a delivery. -/
theorem delivered_essence {task : Task} {n : Nat} {h : Heartbeat} {type : EventType}
    (value : Value) (below : List Call) (htasks : w.tasks = [task])
    (hdelivered : task.activity = .delivered n h type) :
    (w.runSession task.session.epoch value below).1.essence = w.essence := by
  have htask : w.task? task.session.epoch = some task := by simp [task?, htasks]
  have hstep : w.stepSession task.session task.activity value =
      (w.reportUnheard type value, task.session, .goOn (.serving n h) []) := by
    rw [hdelivered]
    exact Comes.serveOn.eq
  have hworld : (w.reportUnheard type value).essence = w.essence :=
    essence_overlooks.reportUnheard w type value
  rw [runSession_conclude _ _ _ htask, hstep, outline, hworld]
  simp [conclude, Progress.essence, Activity.essence, setTask, essence, htasks, Task.essence,
    hdelivered]

end World

end EventFeed.Simulation
