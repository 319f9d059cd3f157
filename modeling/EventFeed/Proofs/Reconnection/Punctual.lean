import EventFeed.Proofs.Reconnection.Enactment

/-! # A session on time

As long as the outcomes last, a session that nobody disturbs does what the timeline says, when it
says so.
-/

namespace EventFeed.Simulation

/-! ## Sessions -/

section

variable (c : Config) (outcomes : List Outcome) (seen : List TimedMark)

/-- What is seen of a session and what lies ahead of it make up the timeline. -/
structure OnTime (now : Nat) (opens : List OpenScript) (s : Session) (a : Activity) : Prop where
  script : List.Forall₂ Outcome.Describes (outcomes.drop (attemptCount seen)) opens
  backoff : s.backoff = { Backoff.ofConfig c with attempt := s.backoff.attempt }
  ahead : ∃ marks, seen ++ marks = timeline c outcomes ∧
    Ahead c outcomes seen now (outcomes.drop (attemptCount seen)) a s.backoff.attempt marks

/-- More attempts have been made than there are outcomes, and before that the timeline was kept. -/
def UsedUp : Prop := outcomes.length < attemptCount seen ∧ timeline c outcomes <+: seen

end

variable {c : Config} {outcomes : List Outcome} {seen more : List TimedMark} {now : Nat}
  {opens opens' : List OpenScript} {w w' : World} {s s' : Session} {a b : Activity}

theorem UsedUp.append (h : UsedUp c outcomes seen) : UsedUp c outcomes (seen ++ more) := by
  refine ⟨?_, h.2.trans (List.prefix_append _ _)⟩
  rw [attemptCount_append]
  exact Nat.lt_add_right _ h.1

theorem marksAt_nil (time : Nat) (state : ConnectionState) : marksAt time [] state state = [] := by
  simp [marksAt]

theorem marksAt_attempt (time : Nat) (state : ConnectionState) :
    marksAt time [.attempt] state state = [(millis time, .attempt)] := by
  simp [marksAt]

theorem marksAt_change (time : Nat) {previous next : ConnectionState} (h : previous ≠ next) :
    marksAt time [] previous next = [(millis time, .state next)] := by
  simp [marksAt, ConnectionState.changeTo, h]

theorem World.Leads.attempts (h : w.Leads a b) : a.attempts = [] := by
  cases h with
  | serve ha => cases a <;> first | rfl | cases ha
  | lose ha => cases a <;> first | rfl | cases ha
  | retreat ha =>
      rcases ha with ha | ⟨e, rfl⟩
      · cases a <;> first | rfl | cases ha
      · rfl
  | _ => rfl

namespace OnTime

/-- A session stays on time when the next mark is the one that lies ahead. -/
theorem mark {mark : TimedMark} (h : OnTime c outcomes seen now opens s a)
    (hscript :
      List.Forall₂ Outcome.Describes (outcomes.drop (attemptCount (seen ++ [mark]))) opens')
    (hbackoff : s'.backoff = { Backoff.ofConfig c with attempt := s'.backoff.attempt })
    (hahead : ∀ marks,
      Ahead c outcomes seen now (outcomes.drop (attemptCount seen)) a s.backoff.attempt marks →
      ∃ marks', marks = mark :: marks' ∧ Ahead c outcomes (seen ++ [mark]) now
        (outcomes.drop (attemptCount (seen ++ [mark]))) b s'.backoff.attempt marks') :
    OnTime c outcomes (seen ++ [mark]) now opens' s' b := by
  obtain ⟨marks, hmarks, ha⟩ := h.ahead
  obtain ⟨marks', rfl, hb⟩ := hahead marks ha
  exact ⟨hscript, hbackoff, marks', by rw [List.append_assoc]; exact hmarks, hb⟩

/-- A change of state is no attempt. -/
theorem change {state : ConnectionState} (h : OnTime c outcomes seen now opens s a)
    (hbackoff : s'.backoff = { Backoff.ofConfig c with attempt := s'.backoff.attempt })
    (hahead : ∀ marks,
      Ahead c outcomes seen now (outcomes.drop (attemptCount seen)) a s.backoff.attempt marks →
      ∃ marks', marks = (millis now, .state state) :: marks' ∧
        Ahead c outcomes (seen ++ [(millis now, .state state)]) now
          (outcomes.drop (attemptCount seen)) b s'.backoff.attempt marks') :
    OnTime c outcomes (seen ++ [(millis now, .state state)]) now opens s' b := by
  have hcount : attemptCount (seen ++ [(millis now, .state state)]) = attemptCount seen := by
    rw [attemptCount_append, attemptCount_state, Nat.add_zero]
  exact h.mark (hcount ▸ h.script) hbackoff (hcount ▸ hahead)

/-- The next attempt is the next of the outcomes, if one is left. -/
theorem call {fallback : OpenScript} (h : OnTime c outcomes seen now opens s .calling) :
    OnTime c outcomes (seen ++ [(millis now, .attempt)]) now opens.tail s
        (.opening (opens.head?.getD fallback)
          (some (now + (opens.head?.getD fallback).delay)) (now + c.connectTimeoutMs.toNat)) ∨
      UsedUp c outcomes (seen ++ [(millis now, .attempt)]) := by
  obtain ⟨hscript, hbackoff, marks, hmarks, ha⟩ := h
  cases hrest : outcomes.drop (attemptCount seen) with
  | nil =>
      -- no outcome is left: the attempt is one that the timeline does not have
      right
      rw [hrest] at ha
      obtain rfl : marks = [] := ha
      rw [List.append_nil] at hmarks
      rw [List.drop_eq_nil_iff] at hrest
      refine ⟨?_, hmarks ▸ List.prefix_append _ _⟩
      rw [attemptCount_append, attemptCount_attempt]
      exact Nat.lt_succ_of_le hrest
  | cons o rest =>
      left
      have hcount : outcomes.drop (attemptCount (seen ++ [(millis now, .attempt)])) = rest := by
        rw [attemptCount_append, attemptCount_attempt, ← List.drop_drop, hrest, List.drop_one,
          List.tail_cons]
      rw [hrest] at hscript ha
      cases hscript with
      | cons ho hscript =>
          obtain ⟨marks', rfl, hb⟩ := ha.call hrest ho
          refine ⟨hcount ▸ hscript, hbackoff, marks', ?_, hcount ▸ hb⟩
          rw [List.append_assoc]
          exact hmarks

/-- A setback uses up one of the retries, unless all have been used up. -/
theorem retreat (h : OnTime c outcomes seen now opens s .retreating) :
    OnTime c outcomes (seen ++ [(millis now, .state .reconnecting)]) now opens s.setback.2
      (.retrying s.setback.1) := by
  have hbudget : s.backoff.maxAttempts = c.maxReconnectAttempts := by
    rw [h.backoff]
    rfl
  -- the budget is checked before the delay is taken, on the same count
  rcases UInt32.lt_or_le s.backoff.attempt s.backoff.maxAttempts with hlt | hle
  · have hdelay : s.backoff.delayFor s.backoff.attempt =
        (Backoff.ofConfig c).delayFor s.backoff.attempt :=
      (congrArg (·.delayFor s.backoff.attempt) h.backoff).trans (Backoff.delayFor_attempt _ _ _)
    rw [Session.setback_of_lt hlt, hdelay]
    refine h.change ?_ fun marks ha => ha.retry (UInt32.not_le.mpr (hbudget ▸ hlt))
    rw [h.backoff]
  · rw [Session.setback_of_le hle]
    exact h.change h.backoff fun marks ha => ha.exhaust (hbudget ▸ hle)

/-- A session in charge that is on time stays so, or has used up the outcomes. -/
theorem course {state : ConnectionState} (h : OnTime c outcomes seen w.now w.opens s a)
    (hconfig : w.scenario.manager.config = c) (hcharge : w.InCharge s a)
    (hcourse : w.Course s a s' b opens state)
    (hloss : a.isLosing = false → b.isLosing = true →
      lossDue? outcomes seen = some (millis w.now)) :
    let seen' := seen ++ marksAt w.now a.attempts w.lifecycle.state state
    OnTime c outcomes seen' w.now opens s' b ∨ UsedUp c outcomes seen' := by
  have hstate := hcharge.state
  cases hcourse with
  | quiet hleads =>
      left
      obtain ⟨hscript, hbackoff, marks, hmarks, ha⟩ := h
      rw [hleads.attempts, marksAt_nil, List.append_nil]
      exact ⟨hscript, hbackoff, marks, hmarks, ha.quiet hleads hloss⟩
  | call hscript =>
      rw [show Activity.calling.attempts = [.attempt] from rfl, marksAt_attempt, hconfig, hscript]
      exact h.call
  | connect =>
      left
      have hne : w.lifecycle.state ≠ .connected := fun heq => by rw [heq] at hstate; cases hstate
      rw [show (Activity.accepted _).attempts = [] from rfl, marksAt_change w.now hne]
      refine h.change ?_ fun marks ha => ha.connect
      change s.backoff.reset = { Backoff.ofConfig c with attempt := 0 }
      rw [h.backoff]
      rfl
  | retreat =>
      left
      have hne : w.lifecycle.state ≠ .reconnecting := fun heq => by rw [heq] at hstate; cases hstate
      rw [show Activity.retreating.attempts = [] from rfl, marksAt_change w.now hne]
      exact h.retreat
  | fail =>
      left
      have hne : w.lifecycle.state ≠ .failed := fun heq => by rw [heq] at hstate; cases hstate
      rw [show (Activity.retrying none).attempts = [] from rfl, marksAt_change w.now hne]
      exact h.change h.backoff fun marks ha => ha.fail
  | resume =>
      left
      have hne : w.lifecycle.state ≠ .connecting := fun heq => by rw [heq] at hstate; cases hstate
      rw [show Activity.resuming.attempts = [] from rfl, marksAt_change w.now hne]
      exact h.change h.backoff fun marks ha => ha.resume

end OnTime

/-! ## Worlds -/

/-- The only session is on time, or the session has ended when the timeline does. -/
inductive World.Keeps (w : World) (c : Config) (outcomes : List Outcome) (seen : List TimedMark) :
    Prop
  | onTime {s : Session} {a : Activity} {alarms : List Alarm} : w.tasks = [⟨s, a, alarms⟩] →
      w.scenario.manager.config = c → w.InCharge s a →
      OnTime c outcomes seen w.now w.opens s a → Keeps w c outcomes seen
  | ended : w.tasks = [] → seen = timeline c outcomes → Keeps w c outcomes seen

/-- Nothing has happened that concerns sessions. -/
structure World.SameCourse (w w' : World) : Prop where
  state : w'.lifecycle.state = w.lifecycle.state
  epoch : w'.lifecycle.epoch = w.lifecycle.epoch
  owner : w'.lifecycle.owner = w.lifecycle.owner
  tasks : w'.tasks = w.tasks
  opens : w'.opens = w.opens
  scenario : w'.scenario = w.scenario
  now : w'.now = w.now

namespace World

variable {calls calls' : List Call}

theorem SameManager.sameCourse (h : w.SameManager w') : w.SameCourse w' :=
  ⟨by rw [h.lifecycle], by rw [h.lifecycle], by rw [h.lifecycle], h.tasks, h.opens, h.scenario,
    h.now⟩

/-- A step that makes no request and breaks off no session is one of a session, or does not concern
sessions. -/
inductive Goes (w : World) : Option Call → World → Prop
  | apart {call : Option Call} {w' : World} : w.SameCourse w' →
      (∀ epoch, call = some (.session epoch) → w.task? epoch = none) → Goes w call w'
  | session {epoch : UInt64} {task task' : Task} {value : Value} {w₁ w' : World}
      {progress : Progress} : w.task? epoch = some task →
      w.stepSession task.session task.activity value = (w₁, task'.session, progress) →
      progress.activity? = some task'.activity → (w₁.setTask task').SameManager w' →
      Goes w (some (.session epoch)) w'
  | finish {epoch : UInt64} {task : Task} {value : Value} {s : Session} {w₁ : World} :
      w.task? epoch = some task →
      w.stepSession task.session task.activity value = (w₁, s, .finish) →
      Goes w (some (.session epoch)) (w₁.removeTask epoch)

theorem Does.goes (h : w.Does calls w' calls') (hsecure : Secure calls)
    (hnone : (Call.performed calls.head?).filter Action.isRequest = []) :
    w.Goes calls.head? w' := by
  cases h with
  | @plain _ popped more below hs hne hpopped =>
      refine .apart hs.sameCourse fun epoch hcall => ?_
      cases popped with
      | nil => exact absurd rfl hne
      | cons c popped =>
          have hc := hpopped c List.mem_cons_self
          rw [Option.some.inj hcall] at hc
          cases hc
  | connect => cases hnone
  | disconnect => cases hnone
  | observe hl =>
      obtain ⟨_, rfl⟩ := Lifecycle.addObserver?_eq_some.mp hl
      exact .apart ⟨rfl, rfl, rfl, rfl, rfl, rfl, rfl⟩ fun epoch hcall => by cases hcall
  | take _ hs =>
      refine .apart ⟨?_, ?_, ?_, hs.tasks, hs.opens, hs.scenario, hs.now⟩
        fun epoch hcall => by cases hcall
      all_goals rw [hs.lifecycle]
  | absent htask =>
      refine .apart (SameManager.refl w).sameCourse fun epoch hcall => ?_
      cases hcall
      exact htask
  | session htask hstep hb hs => exact .session htask hstep hb hs
  | finish htask hstep => exact .finish htask hstep
  | broken hbreak hunsheltered =>
      exact absurd (hsecure.sheltered_of_mayBreak hbreak) (by simp [hunsheltered])
  | _ => exact .apart ⟨rfl, rfl, rfl, rfl, rfl, rfl, rfl⟩ fun epoch hcall => by cases hcall

theorem task?_eq_some {epoch : UInt64} {task task' : Task} (htasks : w.tasks = [task])
    (h : w.task? epoch = some task') : task = task' := by
  have hmem := List.mem_of_find?_eq_some h
  rw [htasks, List.mem_singleton] at hmem
  exact hmem.symm

theorem SameCourse.inCharge (h : w.SameCourse w') (hcharge : w.InCharge s a) : w'.InCharge s a :=
  ⟨h.epoch.trans hcharge.epoch, h.owner.trans hcharge.owner, h.state ▸ hcharge.state⟩

theorem SameCourse.keeps (h : w.SameCourse w') (hkeeps : w.Keeps c outcomes seen) :
    w'.Keeps c outcomes seen := by
  cases hkeeps with
  | onTime htasks hconfig hcharge hontime =>
      rw [← h.tasks] at htasks
      rw [← h.scenario] at hconfig
      rw [← h.now, ← h.opens] at hontime
      exact .onTime htasks hconfig (h.inCharge hcharge) hontime
  | ended htasks hseen => exact .ended (h.tasks.trans htasks) hseen

/-- What does not concern sessions is not seen. -/
theorem SameCourse.marks {call : Option Call} (h : w.SameCourse w')
    (habsent : ∀ epoch, call = some (.session epoch) → w.task? epoch = none) :
    w.marks call w' = [] := by
  have hattempts : w.attempts call = [] := by
    unfold World.attempts
    split
    next epoch => rw [habsent epoch rfl, Option.elim_none]
    next => rfl
  rw [World.marks, hattempts, h.state]
  exact marksAt_nil _ _

/-- The session goes on, and stays on time as long as the outcomes last. -/
theorem session_keeps {epoch : UInt64} {task task' : Task} {value : Value} {w₁ : World}
    {progress : Progress} (hkeeps : w.Keeps c outcomes seen) (htask : w.task? epoch = some task)
    (hstep : w.stepSession task.session task.activity value = (w₁, task'.session, progress))
    (hb : progress.activity? = some task'.activity) (hs : (w₁.setTask task').SameManager w')
    (hloss : w.isLosing = false → w'.isLosing = true →
      lossDue? outcomes seen = some (millis w.now)) :
    let seen' := seen ++ w.marks (some (.session epoch)) w'
    w'.Keeps c outcomes seen' ∨ UsedUp c outcomes seen' := by
  cases hkeeps with
  | @onTime s a alarms htasks hconfig hcharge hontime =>
      obtain rfl := task?_eq_some htasks htask
      obtain rfl : s.epoch = epoch := epoch_of_task? htask
      have hsteps := (steps_of_task? htask hstep).1
      -- the course of the step says what is seen, its acts that the session stays in charge
      have hcourse := (stepSession_runs hcharge value).course
      rw [hstep] at hcourse
      have hlifecycle : w'.lifecycle = w₁.lifecycle := hs.lifecycle
      have hepoch : task'.session.epoch = s.epoch := hsteps.epoch
      have htasks' : w'.tasks = [task'] := by
        rw [hs.tasks, setTask, hsteps.tasks, htasks, List.map_singleton, if_pos hepoch.symm]
      have hcharge' : w'.InCharge task'.session task'.activity := by
        obtain ⟨he, ho⟩ := hsteps.acts.epoch_eq
        refine ⟨?_, ?_, ?_⟩
        · rw [hlifecycle, he, hepoch, hcharge.epoch]
        · rw [hlifecycle, ho, hepoch, hcharge.owner]
        · rw [hlifecycle]
          exact hsteps.acts.admits hb hcharge.epoch hcharge.owner hcharge.state
      have hmarks : w.marks (some (.session s.epoch)) w' =
          marksAt w.now a.attempts w.lifecycle.state w₁.lifecycle.state := by
        rw [marks, attempts, htask, hlifecycle]
        rfl
      have hontime' := hontime.course hconfig hcharge (hcourse _ hb) fun ha hb' =>
        hloss (by simp [isLosing, htasks, ha]) (by simp [isLosing, htasks', hb'])
      rw [← hmarks] at hontime'
      refine hontime'.imp_left fun hontime' => .onTime htasks' ?_ hcharge' ?_
      · rw [hs.scenario, ← hconfig, ← hsteps.scenario]
        rfl
      · rw [hs.now, hs.opens]
        rw [← hsteps.now] at hontime'
        exact hontime'
  | ended htasks => simp [task?, htasks] at htask

/-- The session ends when it has given up. -/
theorem finish_keeps {epoch : UInt64} {task : Task} {value : Value} {s' : Session} {w₁ : World}
    (hkeeps : w.Keeps c outcomes seen) (htask : w.task? epoch = some task)
    (hstep : w.stepSession task.session task.activity value = (w₁, s', .finish)) :
    (w₁.removeTask epoch).Keeps c outcomes
      (seen ++ w.marks (some (.session epoch)) (w₁.removeTask epoch)) := by
  cases hkeeps with
  | @onTime s a alarms htasks hconfig hcharge hontime =>
      obtain rfl := task?_eq_some htasks htask
      obtain rfl : s.epoch = epoch := epoch_of_task? htask
      have hfinish := (stepSession_runs hcharge value).finish
      rw [hstep] at hfinish
      obtain rfl := hfinish rfl
      obtain ⟨marks', hmarks, ha⟩ := hontime.ahead
      obtain rfl : marks' = [] := ha
      have hsteps := (steps_of_task? htask hstep).1
      have hnone : w.marks (some (.session s.epoch)) (w₁.removeTask s.epoch) = [] := by
        rw [marks, attempts, htask, (finish_effect htask hstep).2]
        exact marksAt_nil _ _
      rw [hnone]
      refine .ended ?_ hmarks
      rw [removeTask, hsteps.tasks, htasks]
      simp
  | ended htasks => simp [task?, htasks] at htask

/-- A step that fits the outcomes keeps to the timeline. -/
theorem Goes.keeps {call : Option Call} (h : w.Goes call w') (hkeeps : w.Keeps c outcomes seen)
    (hloss : w.isLosing = false → w'.isLosing = true →
      lossDue? outcomes seen = some (millis w.now)) :
    let seen' := seen ++ w.marks call w'
    w'.Keeps c outcomes seen' ∨ UsedUp c outcomes seen' := by
  cases h with
  | apart hsame habsent =>
      left
      rw [hsame.marks habsent, List.append_nil]
      exact hsame.keeps hkeeps
  | session htask hstep hb hs => exact session_keeps hkeeps htask hstep hb hs hloss
  | finish htask hstep => exact Or.inl (finish_keeps hkeeps htask hstep)

/-- The clock moves on while the session is idle. -/
theorem Keeps.ring {time : Nat} (h : w.Keeps c outcomes seen) (hidle : w.idlesUntil time = true)
    (hkept : ∀ due ∈ lossDue? outcomes seen, millis time ≤ due) :
    (w.ring time).Keeps c outcomes seen := by
  have hring := w.ring_same time
  cases h with
  | @onTime s a alarms htasks hconfig hcharge hontime =>
      have htasks' : (w.ring time).tasks =
          [⟨s, a, alarms.filter fun alarm => max w.now time < alarm.due⟩] := by
        rw [hring.tasks]
        simp [htasks]
      refine .onTime htasks' (hring.scenario ▸ hconfig) ?_ ?_
      · exact ⟨hring.lifecycle ▸ hcharge.epoch, hring.lifecycle ▸ hcharge.owner,
          hring.lifecycle ▸ hcharge.state⟩
      · rw [hring.now, hring.opens]
        obtain ⟨hscript, hbackoff, marks, hmarks, ha⟩ := hontime
        refine ⟨hscript, hbackoff, marks, hmarks, ?_⟩
        -- a clock that would go back stays where it is
        rcases Nat.le_total time w.now with hle | hle
        · exact (Nat.max_eq_left hle).symm ▸ ha
        · change Ahead c outcomes seen (max w.now time) _ a _ marks
          rw [Nat.max_eq_right hle]
          simp only [idlesUntil, htasks, List.all_cons, List.all_nil, Bool.and_true] at hidle
          cases hstep : (w.stepSession s a .none).2.2 with
          | goOn => simp [hstep, Progress.idlesUntil] at hidle
          | finish => simp [hstep, Progress.idlesUntil] at hidle
          | wait b set =>
              have hset : ∀ alarm ∈ set, time ≤ alarm.2 := by
                simpa [hstep, Progress.idlesUntil] using hidle
              exact ha.elapse (stepSession_awaits hcharge hstep) hset hkept
  | ended htasks hseen =>
      refine .ended ?_ hseen
      rw [hring.tasks]
      simp [htasks]

theorem Keeps.returns (h : w.Keeps c outcomes seen) :
    ∀ t ∈ w.tasks, ∀ script ∈ t.activity.script?, script.Returns := by
  cases h with
  | onTime htasks _ _ hontime =>
      obtain ⟨marks, _, ha⟩ := hontime.ahead
      rw [htasks]
      simpa using ha.returns
  | ended htasks => simp [htasks]

/-! ## The request -/

/-- No session has been started. -/
structure Fresh (w : World) (scenario : Scenario) (opens : List OpenScript) : Prop where
  tasks : w.tasks = []
  state : w.lifecycle.state = .idle
  scenario : w.scenario = scenario
  opens : w.opens = opens

variable {scenario : Scenario}

theorem Goes.fresh {call : Option Call} (h : w.Goes call w') (hfresh : w.Fresh scenario opens) :
    w'.Fresh scenario opens ∧ w.marks call w' = [] := by
  cases h with
  | apart hsame habsent =>
      exact ⟨⟨hsame.tasks.trans hfresh.tasks, hsame.state.trans hfresh.state,
        hsame.scenario.trans hfresh.scenario, hsame.opens.trans hfresh.opens⟩, hsame.marks habsent⟩
  | session htask => simp [task?, hfresh.tasks] at htask
  | finish htask => simp [task?, hfresh.tasks] at htask

/-- The first request starts a session. -/
theorem Fresh.connect_same (h : w.Fresh scenario opens) :
    ∃ l : Lifecycle ObserverId, l.state = .connecting ∧ l.owner = some l.epoch ∧
      ({ w with
        lifecycle := l
        tasks := [⟨.start scenario.manager.config l.epoch, .starting, []⟩]
      } : World).SameManager w.connect.1 := by
  obtain ⟨l, hl⟩ : ∃ l, w.lifecycle.connect? = some l := by
    rw [Lifecycle.connect?, h.state]
    exact ⟨_, rfl⟩
  obtain ⟨_, heq⟩ := Lifecycle.connect?_eq_some.mp hl
  have hwake := w.wakeOwner_same
  refine ⟨l, by simp [← heq], by simp [← heq], ?_⟩
  simp only [World.connect, hl]
  refine ⟨rfl, ?_, hwake.opens, hwake.scenario, hwake.now⟩
  simp [spawn, hwake.tasks, hwake.scenario, h.tasks, h.scenario]

/-- A session that is started at time zero is on time. -/
theorem Fresh.connect (h : w.Fresh scenario opens)
    (hopens : List.Forall₂ Outcome.Describes outcomes opens) (hnow : w.now = 0) :
    w.connect.1.Keeps scenario.manager.config outcomes [(0, .state .connecting)] ∧
      w.connect.1.lifecycle.state = .connecting := by
  obtain ⟨l, hstate, howner, hsame⟩ := h.connect_same
  have hlifecycle : w.connect.1.lifecycle = l := hsame.lifecycle
  have hcharge : w.connect.1.InCharge (.start scenario.manager.config l.epoch) .starting := by
    refine ⟨?_, ?_, ?_⟩
    · rw [hlifecycle]
      rfl
    · rw [hlifecycle]
      exact howner
    · rw [hlifecycle, hstate]
      rfl
  have hontime : OnTime scenario.manager.config outcomes [(0, .state .connecting)] 0 opens
      (.start scenario.manager.config l.epoch) .starting := ⟨hopens, rfl, _, rfl, rfl⟩
  refine ⟨.onTime hsame.tasks ?_ hcharge ?_, hlifecycle ▸ hstate⟩
  · rw [hsame.scenario, ← h.scenario]
  · rw [hsame.now, hsame.opens]
    change OnTime _ _ _ w.now w.opens _ _
    rw [hnow, h.opens]
    exact hontime

end World

end EventFeed.Simulation
