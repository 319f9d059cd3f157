import EventFeed.Proofs.Reconnection.Enactment
import EventFeed.Proofs.Serving.Heartbeats

/-! # How long a silent connection is kept

A connection that stays silent is given up after a time that depends on the configuration alone. It
takes an interval until a probe is due, some time until the probe has gone out, and the timeout
until its reply is overdue. A probe that goes out slowly is given up after the timeout, but while it
is on its way nobody looks at the deadline, which an earlier probe may have armed.
-/

namespace EventFeed

namespace Heartbeat

variable {h : Heartbeat} {interval timeout slack heard started now time : Nat}

/-- The times of a heartbeat, a while after the far side was last heard, if each probe takes no
longer than some slack to go out. -/
structure Bounded (h : Heartbeat) (interval timeout slack heard now : Nat) : Prop where
  interval_eq : h.interval = interval
  timeout_eq : h.timeout = timeout
  tick_le : h.nextTick ≤ now + interval
  deadline_le : ∀ d ∈ h.deadline, d ≤ heard + interval + slack + timeout

/-- At the head of the loop. The deadline may have passed while a probe was on its way. -/
structure Watched (h : Heartbeat) (interval timeout slack heard now : Nat) : Prop
    extends h.Bounded interval timeout slack heard now where
  unarmed : h.deadline = none → h.nextTick ≤ heard + interval ∧ now ≤ heard + interval
  armed : ∀ d ∈ h.deadline, now ≤ d + slack

/-- When a probe is started. -/
structure Probed (h : Heartbeat) (interval timeout slack heard started : Nat) : Prop
    extends h.Bounded interval timeout slack heard started where
  unarmed : h.deadline = none → started ≤ heard + interval
  armed : ∀ d ∈ h.deadline, started ≤ d

theorem Watched.start (hnow : now ≤ heard) :
    (start interval timeout now).Watched interval timeout slack heard now where
  interval_eq := rfl
  timeout_eq := rfl
  tick_le := Nat.le_refl _
  deadline_le := by simp [Heartbeat.start]
  unarmed := fun _ => ⟨Nat.add_le_add_right hnow interval, Nat.le_add_right_of_le hnow⟩
  armed := by simp [Heartbeat.start]

theorem Watched.acknowledge (hwatched : h.Watched interval timeout slack heard now) :
    h.acknowledge.Watched interval timeout slack now now where
  interval_eq := hwatched.interval_eq
  timeout_eq := hwatched.timeout_eq
  tick_le := hwatched.tick_le
  deadline_le := by simp [Heartbeat.acknowledge]
  unarmed := fun _ => ⟨hwatched.tick_le, Nat.le_add_right now interval⟩
  armed := by simp [Heartbeat.acknowledge]

/-- A probe is started before the deadline. -/
theorem Watched.takeTick (hwatched : h.Watched interval timeout slack heard now)
    (hexpired : h.isExpired now = false) (hdue : h.isDue now = true) :
    (h.takeTick now).Probed interval timeout slack heard now where
  interval_eq := hwatched.interval_eq
  timeout_eq := hwatched.timeout_eq
  tick_le := by
    have hle : h.nextTick ≤ now := by simpa [isDue] using hdue
    simp only [Heartbeat.takeTick, hwatched.interval_eq]
    split <;> omega
  deadline_le := hwatched.deadline_le
  unarmed := fun hnone => (hwatched.unarmed hnone).2
  armed := by
    intro d hd
    have hdeadline : h.deadline = some d := hd
    have hlt : now < d := by simpa [isExpired, hdeadline] using hexpired
    exact Nat.le_of_lt hlt

/-- The deadline that a probe arms is later than its start by the time that it took. -/
theorem Probed.pingSent (hprobed : h.Probed interval timeout slack heard started)
    (hstarted : started ≤ now) (hslack : now ≤ started + slack) :
    (h.pingSent now).Watched interval timeout slack heard now := by
  have htick := hprobed.tick_le
  -- a deadline that an earlier probe has armed stays, and may have passed meanwhile
  cases hdeadline : h.deadline with
  | none =>
      have hsent : (h.pingSent now).deadline = some (now + timeout) := by
        simp [Heartbeat.pingSent, hdeadline, hprobed.timeout_eq]
      have hunarmed := hprobed.unarmed hdeadline
      refine ⟨⟨hprobed.interval_eq, hprobed.timeout_eq, ?_, ?_⟩, ?_, ?_⟩
      · exact Nat.le_trans htick (Nat.add_le_add_right hstarted interval)
      · rw [hsent]
        rintro d ⟨⟩
        omega
      · rw [hsent]
        rintro ⟨⟩
      · rw [hsent]
        rintro d ⟨⟩
        omega
  | some deadline =>
      have hsent : (h.pingSent now).deadline = some deadline := by
        simp [Heartbeat.pingSent, hdeadline]
      have harmed := hprobed.armed deadline hdeadline
      have hle := hprobed.deadline_le deadline hdeadline
      refine ⟨⟨hprobed.interval_eq, hprobed.timeout_eq, ?_, ?_⟩, ?_, ?_⟩
      · exact Nat.le_trans htick (Nat.add_le_add_right hstarted interval)
      · rw [hsent]
        rintro d ⟨⟩
        exact hle
      · rw [hsent]
        rintro ⟨⟩
      · rw [hsent]
        rintro d ⟨⟩
        omega

/-- The clock does not pass what the head of the loop waits for. -/
theorem Watched.elapse (hwatched : h.Watched interval timeout slack heard now)
    (htick : time ≤ h.nextTick) (hdeadline : ∀ d ∈ h.deadline, time ≤ d) :
    h.Watched interval timeout slack heard (max now time) where
  interval_eq := hwatched.interval_eq
  timeout_eq := hwatched.timeout_eq
  tick_le := by
    have := hwatched.tick_le
    omega
  deadline_le := hwatched.deadline_le
  unarmed := by
    intro hnone
    have := hwatched.unarmed hnone
    omega
  armed := by
    intro d hd
    have := hwatched.armed d hd
    have := hdeadline d hd
    omega

theorem Watched.now_le (hwatched : h.Watched interval timeout slack heard now) :
    now ≤ heard + interval + timeout + 2 * slack := by
  cases hdeadline : h.deadline with
  | none =>
      have := hwatched.unarmed hdeadline
      omega
  | some d =>
      have := hwatched.armed d hdeadline
      have := hwatched.deadline_le d hdeadline
      omega

theorem Probed.now_le (hprobed : h.Probed interval timeout slack heard started)
    (hslack : now ≤ started + slack) : now ≤ heard + interval + timeout + 2 * slack := by
  cases hdeadline : h.deadline with
  | none =>
      have := hprobed.unarmed hdeadline
      omega
  | some d =>
      have := hprobed.armed d hdeadline
      have := hprobed.deadline_le d hdeadline
      omega

end Heartbeat

namespace Simulation

/-! ## What a session is at -/

namespace Activity

variable {a b : Activity} {interval timeout slack heard now time n : Nat}

def isPinging : Activity → Bool
  | pinging .. => true
  | _ => false

/-- The times of what a session is at, a while after the far side was last heard. -/
def Attends (interval timeout slack heard now : Nat) : Activity → Prop
  | accepted _ | greeting _ => now ≤ heard
  | serving _ h | delivered _ h _ => h.Watched interval timeout slack heard now
  | pinging _ h _ limit => ∃ started, limit = started + timeout ∧ started ≤ now ∧
      now ≤ started + slack ∧ h.Probed interval timeout slack heard started
  | _ => True

theorem Attends.now_le (h : a.Attends interval timeout slack heard now)
    (hserving : a.isServing = true) : now ≤ heard + interval + timeout + 2 * slack := by
  cases a with
  | serving n heartbeat => exact Heartbeat.Watched.now_le h
  | delivered n heartbeat type => exact Heartbeat.Watched.now_le h
  | pinging n heartbeat sending limit =>
      obtain ⟨started, _, _, hslack, hprobed⟩ := h
      exact hprobed.now_le hslack
  | _ => cases hserving

/-- A send on a connection takes another course, if a probe is on its way there. -/
def sway (n : Nat) (sending : Sending) : Activity → Activity
  | pinging k h old limit => pinging k h (if k = n then sending else old) limit
  | a => a

@[simp] theorem sway_link (n : Nat) (sending : Sending) (a : Activity) :
    (a.sway n sending).link? = a.link? := by
  cases a <;> rfl

/-- The course of a send has no part in the times. -/
@[simp] theorem sway_attends (n : Nat) (sending : Sending) (a : Activity) :
    (a.sway n sending).Attends interval timeout slack heard now ↔
      a.Attends interval timeout slack heard now := by
  cases a <;> rfl

end Activity

/-! ## A step of a session -/

namespace World

variable {w : World} {a b : Activity} {n slack heard time : Nat}

/-- After a step the times are right if they were so before. -/
theorem Tends.attends {new : List Beat} {interval timeout : Nat} (h : w.Tends n a new b)
    (hinterval : interval = w.scenario.manager.config.heartbeatIntervalMs.toNat)
    (htimeout : timeout = w.scenario.manager.config.heartbeatTimeoutMs.toNat)
    (ha : a.Attends interval timeout slack heard w.now) :
    b.Attends interval timeout slack (if .acknowledged ∈ new then w.now else heard) w.now := by
  cases h with
  | greet | stay | deliver | resume | send => exact ha
  | enter =>
      subst hinterval htimeout
      exact .start ha
  | acknowledge => exact Heartbeat.Watched.acknowledge ha
  | @probe heartbeat sending hexpired hdue =>
      have hwatched : heartbeat.Watched interval timeout slack heard w.now := ha
      exact ⟨w.now, by rw [hwatched.timeout_eq], Nat.le_refl _, Nat.le_add_right _ _,
        hwatched.takeTick hexpired hdue⟩
  | sent =>
      obtain ⟨started, _, hstarted, hslack, hprobed⟩ := ha
      exact hprobed.pingSent hstarted hslack
  | expire | lose => exact trivial
  | leave hleaving =>
      cases b with
      | closing | hangingUp => exact trivial
      | _ => cases hleaving

/-- A session that has a connection waits only at the head of its loop, for the next probe and the
deadline, and while it sends. -/
theorem idles_cases {s : Session} {value : Value} (ha : a.link? = some n)
    (h : (w.stepSession s a value).2.2.idlesUntil time = true) :
    (∃ heartbeat, a = .serving n heartbeat ∧ time ≤ heartbeat.nextTick ∧
        ∀ d ∈ heartbeat.deadline, time ≤ d) ∨
      (∃ heartbeat sending limit, a = .pinging n heartbeat sending limit ∧ time ≤ limit) ∨
      a.isLeaving = true := by
  have hcomes := w.stepSession_comes s a value
  generalize w.stepSession s a value = r at hcomes h
  cases hcomes with
  | @idle k heartbeat =>
      obtain rfl := Option.some.inj ha
      have hdue : ∀ alarm ∈ (heartbeat.deadline.map fun d => (AlarmKind.deadline, d)).toList ++
          [(.tick, heartbeat.nextTick)], time ≤ alarm.2 := by
        simpa only [Progress.idlesUntil, List.all_eq_true, decide_eq_true_eq] using h
      refine .inl ⟨heartbeat, rfl, hdue (.tick, heartbeat.nextTick) (by simp), ?_⟩
      intro d hd
      exact hdue (.deadline, d) (by simp [Option.mem_def.mp hd])
  | @awaitPing k heartbeat sending limit =>
      obtain rfl := Option.some.inj ha
      have hdue : ∀ alarm ∈ sendingAlarms sending ++ [(AlarmKind.limit, limit)],
          time ≤ alarm.2 := by
        simpa only [Progress.idlesUntil, List.all_eq_true, decide_eq_true_eq] using h
      exact .inr (.inl ⟨heartbeat, sending, limit, rfl, hdue (.limit, limit) (by simp)⟩)
  | awaitClose | hangUp => exact .inr (.inr rfl)
  | _ => cases ha <;> cases h

/-- The times are right after the clock has moved on, if no send may take longer than the slack. -/
theorem attends_elapse {s : Session} {value : Value} {interval timeout : Nat}
    (ha : a.link? = some n) (hattends : a.Attends interval timeout slack heard w.now)
    (hidles : (w.stepSession s a value).2.2.idlesUntil time = true)
    (hslack : timeout ≤ slack ∨ a.isPinging = false) :
    a.Attends interval timeout slack heard (max w.now time) := by
  rcases idles_cases ha hidles with
    ⟨heartbeat, rfl, htick, hdeadline⟩ | ⟨heartbeat, sending, limit, rfl, hlimit⟩ | hleaving
  · exact Heartbeat.Watched.elapse hattends htick hdeadline
  · obtain ⟨started, hlimit_eq, hstarted, hle, hprobed⟩ := hattends
    have htimeout : timeout ≤ slack := hslack.resolve_right (by simp [Activity.isPinging])
    exact ⟨started, hlimit_eq, by omega, by omega, hprobed⟩
  · cases a with
    | closing | hangingUp => exact trivial
    | _ => cases hleaving

end World

/-! ## Worlds -/

namespace World

variable {w : World} {n slack : Nat} {signs : List Nat}

/-- A send on a connection takes another course. -/
def sway (w : World) (n : Nat) (sending : Sending) : World :=
  { w with tasks := w.tasks.map fun t => { t with activity := t.activity.sway n sending } }

theorem sway_posts (w : World) (n : Nat) (sending : Sending) :
    (w.sway n sending).posts = w.posts.map fun post => (post.1, post.2.sway n sending) := by
  simp only [posts, sway, List.map_map]
  rfl

/-- Connections stay with those who have them. -/
theorem Custody.sway {k : Nat} (h : w.Custody) (sending : Sending) :
    (w.sway k sending).Custody := by
  have hold : ∀ {e a n}, (e, a) ∈ (w.sway k sending).posts → a.link? = some n →
      ∃ b, (e, b) ∈ w.posts ∧ b.link? = some n ∧ a = b.sway k sending := by
    intro e a n hpost hlink
    rw [sway_posts] at hpost
    obtain ⟨⟨_, b⟩, hb, heq⟩ := List.mem_map.mp hpost
    obtain ⟨rfl, rfl⟩ := Prod.mk.inj heq
    exact ⟨b, hb, by simpa using hlink, rfl⟩
  refine ⟨fun hpost hpost' hlink hlink' => ?_, fun hpost hlink => ?_⟩
  · obtain ⟨b, hb, hlinkb, rfl⟩ := hold hpost hlink
    obtain ⟨b', hb', hlinkb', rfl⟩ := hold hpost' hlink'
    obtain ⟨rfl, rfl⟩ := h.alone hb hb' hlinkb hlinkb'
    exact ⟨rfl, rfl⟩
  · obtain ⟨b, hb, hlinkb, _⟩ := hold hpost hlink
    exact h.opened hb hlinkb

/-- Whoever has a connection keeps to the times, given when the far side has been heard. -/
def Heeds (w : World) (n slack : Nat) (signs : List Nat) : Prop :=
  ∀ t ∈ w.tasks, t.activity.link? = some n → ∃ heard, signs.getLast? = some heard ∧
    t.activity.Attends w.scenario.manager.config.heartbeatIntervalMs.toNat
      w.scenario.manager.config.heartbeatTimeoutMs.toNat slack heard w.now

theorem Heeds.sway {k : Nat} (h : w.Heeds n slack signs) (sending : Sending) :
    (w.sway k sending).Heeds n slack signs := by
  intro t ht hlink
  obtain ⟨u, hu, rfl⟩ := List.mem_map.mp ht
  obtain ⟨heard, hheard, hattends⟩ := h u hu (by simpa using hlink)
  exact ⟨heard, hheard, (Activity.sway_attends ..).mpr hattends⟩

/-- Whoever has a connection after a step has had it before, or has just been accepted. -/
theorem Heeds.step {t : Task} {value : Value} {w₁ : World} {s : Session} {progress : Progress}
    {b : Activity} (h : w.Heeds n slack signs) (htask : w.task? t.session.epoch = some t)
    (hstep : w.stepSession t.session t.activity value = (w₁, s, progress))
    (hb : progress.activity? = some b) (hlink : b.link? = some n) :
    (t.activity.link? = some n ∧ ∃ heard, signs.getLast? = some heard ∧
      b.Attends w.scenario.manager.config.heartbeatIntervalMs.toNat
        w.scenario.manager.config.heartbeatTimeoutMs.toNat slack
        (if .acknowledged ∈ w.beats n (some (.session t.session.epoch)) then w.now else heard)
        w.now) ∨
      w.links.length ≤ n ∧ b = .accepted n := by
  have hnext : (w.stepSession t.session t.activity value).2.2.activity? = some b := by
    rw [hstep]
    exact hb
  have hhands := stepSession_hands hnext
  rcases hhands.kept hlink with ha | ⟨_, _, ha, _⟩
  · obtain ⟨heard, hheard, hattends⟩ := h t (List.mem_of_find?_eq_some htask) ha
    refine .inl ⟨ha, heard, hheard, ?_⟩
    rw [beats_session htask]
    exact (stepSession_tends ha hnext hlink).attends rfl rfl hattends
  · obtain ⟨hn, hb⟩ := hhands.accepted ha hlink
    exact .inr ⟨Nat.le_of_eq hn.symm, hb⟩

end World

/-! ## Runs -/

/-- What can happen next, when the far side may take what it is sent as it likes. -/
inductive Occurrence where
  | move (m : Move)
  /-- A probe that is on its way on a connection takes another course. -/
  | sway (n : Nat) (sending : Sending)

def Occurrence.tick? : Occurrence → Option Nat
  | .move m => m.tick?
  | .sway _ _ => none

namespace Pool

def occur (p : Pool) : Occurrence → Pool
  | .move m => p.move m
  | .sway n sending => { p with world := p.world.sway n sending }

def pass (p : Pool) (occurrences : List Occurrence) : Pool := occurrences.foldl occur p

/-- The time, if the far side is heard on a connection: when it has accepted the connection, and
when an acknowledgement is read. -/
def signs (n : Nat) (p : Pool) : Occurrence → List Nat
  | .move m =>
    if (p.world.links.length ≤ n ∧ n < (p.move m).world.links.length) ∨
        .acknowledged ∈ p.beats n m then [p.world.now]
    else []
  | .sway _ _ => []

/-- The times at which the far side has been heard, earliest first. -/
def timesHeard (n : Nat) : Pool → List Occurrence → List Nat
  | _, [] => []
  | p, o :: occurrences => p.signs n o ++ timesHeard n (p.occur o) occurrences

/-- The clock moves on only while whoever has the connection is idle, and not past anything that is
due. -/
def ClockWaits (n : Nat) (p : Pool) (o : Occurrence) : Prop :=
  ∀ time ∈ o.tick?, p.world.now < time → ∀ t ∈ p.world.tasks, t.activity.link? = some n →
    (p.world.stepSession t.session t.activity .none).2.2.idlesUntil time = true

/-- No time passes while a probe is on its way. -/
def SendsAtOnce (n : Nat) (p : Pool) (o : Occurrence) : Prop :=
  ∀ time ∈ o.tick?, p.world.now < time → ∀ t ∈ p.world.tasks, t.activity.link? = some n →
    t.activity.isPinging = false

def Throughout (Holds : Pool → Occurrence → Prop) : Pool → List Occurrence → Prop
  | _, [] => True
  | p, o :: occurrences => Holds p o ∧ Throughout Holds (p.occur o) occurrences

instance (n : Nat) (p : Pool) (o : Occurrence) : Decidable (p.ClockWaits n o) :=
  inferInstanceAs (Decidable (∀ time ∈ o.tick?, _ → ∀ t ∈ p.world.tasks, _ → _))

instance (n : Nat) (p : Pool) (o : Occurrence) : Decidable (p.SendsAtOnce n o) :=
  inferInstanceAs (Decidable (∀ time ∈ o.tick?, _ → ∀ t ∈ p.world.tasks, _ → _))

instance decidableThroughout (Holds : Pool → Occurrence → Prop)
    [∀ p o, Decidable (Holds p o)] :
    (p : Pool) → (occurrences : List Occurrence) → Decidable (p.Throughout Holds occurrences)
  | _, [] => inferInstanceAs (Decidable True)
  | p, o :: occurrences =>
    have := decidableThroughout Holds (p.occur o) occurrences
    inferInstanceAs (Decidable (_ ∧ _))

variable {p : Pool} {m : Move} {o : Occurrence} {n slack : Nat} {seen : List Nat}

theorem move_heeds (hshape : p.Shaped) (hcustody : p.world.Custody)
    (h : p.world.Heeds n slack seen) (hclock : p.ClockWaits n (.move m))
    (hslack : p.world.scenario.manager.config.heartbeatTimeoutMs.toNat ≤ slack ∨
      p.SendsAtOnce n (.move m)) :
    (p.move m).world.Heeds n slack (seen ++ p.signs n (.move m)) := by
  intro t ht hlink
  have hscenario : (p.move m).world.scenario = p.world.scenario := run_scenario [m] hshape
  have hexists : n < (p.move m).world.links.length :=
    ((move_uses hshape hcustody).custody hcustody).opened (World.mem_posts ht) hlink
  rw [hscenario]
  -- the cases need the session and its activity to be variables
  have hfollows := move_follows (m := m) hshape t ht
  generalize t.session = s, t.activity = a at hfollows hlink ⊢
  cases hfollows with
  | @stays u hu hcall =>
      have hopened := hcustody.opened (World.mem_posts hu) hlink
      have hbeats : p.beats n m = [] := hcustody.beats_eq_nil hu hlink hcall
      have hsilent : p.signs n (.move m) = [] := by
        simp [signs, hbeats, Nat.not_le.mpr hopened]
      obtain ⟨heard, hheard, hattends⟩ := h u hu hlink
      rw [hsilent, List.append_nil]
      refine ⟨heard, hheard, ?_⟩
      rcases p.now_move m hshape with hnow | ⟨time, rfl, hnow⟩
      · rw [hnow]
        exact hattends
      · rw [hnow]
        by_cases hlt : p.world.now < time
        · refine World.attends_elapse hlink hattends (hclock time rfl hlt u hu hlink) ?_
          exact hslack.imp_right fun hinstant => hinstant time rfl hlt u hu hlink
        · rw [Nat.max_eq_left (Nat.le_of_not_lt hlt)]
          exact hattends
  | starts => cases hlink
  | steps hcall htask hstep hb =>
      have hnow : (p.move m).world.now = p.world.now := by
        rcases p.now_move m hshape with hnow | ⟨time, rfl, _⟩
        · exact hnow
        · cases hcall
      rw [hnow]
      rcases h.step htask hstep hb hlink with ⟨ha, heard, hheard, hattends⟩ | ⟨hn, rfl⟩
      · have hopened := hcustody.opened (World.mem_posts_of_task? htask) ha
        rw [← hcall] at hattends
        by_cases hread : .acknowledged ∈ p.beats n m
        · have hsign : p.signs n (.move m) = [p.world.now] := if_pos (.inr hread)
          rw [hsign]
          rw [← beats, if_pos hread] at hattends
          exact ⟨p.world.now, by simp, hattends⟩
        · have hsilent : p.signs n (.move m) = [] := by
            simp [signs, hread, Nat.not_le.mpr hopened]
          rw [hsilent, List.append_nil]
          rw [← beats, if_neg hread] at hattends
          exact ⟨heard, hheard, hattends⟩
      · -- the connection has just been accepted
        have hsign : p.signs n (.move m) = [p.world.now] := if_pos (.inl ⟨hn, hexists⟩)
        rw [hsign]
        exact ⟨p.world.now, by simp, Nat.le_refl _⟩

theorem occur_shaped (o : Occurrence) (hshape : p.Shaped) : (p.occur o).Shaped := by
  cases o with
  | move m => exact run_shaped [m] hshape
  | sway n sending => exact hshape

theorem occur_custody (o : Occurrence) (hshape : p.Shaped) (hcustody : p.world.Custody) :
    (p.occur o).world.Custody := by
  cases o with
  | move m => exact run_custody [m] hshape hcustody
  | sway n sending => exact hcustody.sway sending

theorem occur_scenario (o : Occurrence) (hshape : p.Shaped) :
    (p.occur o).world.scenario = p.world.scenario := by
  cases o with
  | move m => exact run_scenario [m] hshape
  | sway n sending => rfl

theorem occur_heeds (hshape : p.Shaped) (hcustody : p.world.Custody)
    (h : p.world.Heeds n slack seen) (hclock : p.ClockWaits n o)
    (hslack : p.world.scenario.manager.config.heartbeatTimeoutMs.toNat ≤ slack ∨
      p.SendsAtOnce n o) : (p.occur o).world.Heeds n slack (seen ++ p.signs n o) := by
  cases o with
  | move m => exact move_heeds hshape hcustody h hclock hslack
  | sway k sending =>
      rw [signs, List.append_nil]
      exact h.sway sending

theorem pass_heeds {occurrences : List Occurrence} (hshape : p.Shaped)
    (hcustody : p.world.Custody) (h : p.world.Heeds n slack seen)
    (hclock : p.Throughout (ClockWaits n) occurrences)
    (hslack : p.world.scenario.manager.config.heartbeatTimeoutMs.toNat ≤ slack ∨
      p.Throughout (SendsAtOnce n) occurrences) :
    (p.pass occurrences).world.Heeds n slack (seen ++ p.timesHeard n occurrences) := by
  induction occurrences generalizing p seen with
  | nil => simpa [timesHeard, pass] using h
  | cons o occurrences ih =>
      -- what has been heard so far goes into the invariant of the rest
      rw [timesHeard, ← List.append_assoc]
      refine ih (occur_shaped o hshape) (occur_custody o hshape hcustody)
        (occur_heeds hshape hcustody h hclock.1 (hslack.imp_right And.left)) hclock.2 ?_
      rw [occur_scenario o hshape]
      exact hslack.imp_right And.right

theorem pass_scenario (occurrences : List Occurrence) (hshape : p.Shaped) :
    (p.pass occurrences).world.scenario = p.world.scenario := by
  induction occurrences generalizing p with
  | nil => rfl
  | cons o occurrences ih => exact (ih (occur_shaped o hshape)).trans (occur_scenario o hshape)

/-- As long as a connection is served, the far side was last heard not long ago. -/
theorem exists_heard {occurrences : List Occurrence} {epoch : UInt64} {a : Activity}
    (scenario : Scenario) (opens : List OpenScript)
    (hclock : (start scenario opens).Throughout (ClockWaits n) occurrences)
    (hslack : scenario.manager.config.heartbeatTimeoutMs.toNat ≤ slack ∨
      (start scenario opens).Throughout (SendsAtOnce n) occurrences)
    (hpost : (epoch, a) ∈ ((start scenario opens).pass occurrences).world.posts)
    (hlink : a.link? = some n) (hserving : a.isServing = true) :
    ∃ heard, ((start scenario opens).timesHeard n occurrences).getLast? = some heard ∧
      ((start scenario opens).pass occurrences).world.now ≤
        heard + scenario.manager.config.heartbeatIntervalMs.toNat +
          scenario.manager.config.heartbeatTimeoutMs.toNat + 2 * slack := by
  have hshape := start_shaped scenario opens
  have hstart : (start scenario opens).world.Heeds n slack [] := List.forall_mem_nil _
  have hheeds := pass_heeds hshape (World.Custody.start scenario opens) hstart hclock hslack
  obtain ⟨t, ht, heq⟩ := List.mem_map.mp hpost
  obtain ⟨_, rfl⟩ := Prod.mk.inj heq
  obtain ⟨heard, hheard, hattends⟩ := hheeds t ht hlink
  rw [pass_scenario occurrences hshape] at hattends
  exact ⟨heard, hheard, hattends.now_le hserving⟩

/-- A connection that stays silent is given up in bounded time. In every run, however the sessions
are scheduled and however the far side takes each probe, if the clock moves on only while whoever
has the connection is idle and not past anything that is due: as long as the connection is served,
the far side has accepted it or an acknowledgement was read no more than the interval and three
timeouts ago, or the interval and one timeout if no probe has taken any time to go out. -/
theorem silence_is_bounded (scenario : Scenario) (opens : List OpenScript) (n : Nat)
    (occurrences : List Occurrence)
    (hclock : (start scenario opens).Throughout (ClockWaits n) occurrences) :
    let p := start scenario opens
    let q := p.pass occurrences
    let interval := scenario.manager.config.heartbeatIntervalMs.toNat
    let timeout := scenario.manager.config.heartbeatTimeoutMs.toNat
    ∀ epoch a, (epoch, a) ∈ q.world.posts → a.link? = some n → a.isServing = true →
      ∃ heard, (p.timesHeard n occurrences).getLast? = some heard ∧
        q.world.now ≤ heard + interval + 3 * timeout ∧
        (p.Throughout (SendsAtOnce n) occurrences →
          q.world.now ≤ heard + interval + timeout) := by
  intro p q interval timeout epoch a hpost hlink hserving
  obtain ⟨heard, hheard, hslow⟩ := exists_heard scenario opens hclock
    (.inl (Nat.le_refl timeout)) hpost hlink hserving
  -- a probe may take up to the timeout to go out, and takes no time if all go out at once
  refine ⟨heard, hheard, ?_, fun hinstant => ?_⟩
  · change q.world.now ≤ heard + interval + timeout + 2 * timeout at hslow
    omega
  · obtain ⟨heard', hheard', hprompt⟩ := exists_heard scenario opens hclock
      (.inr hinstant : timeout ≤ 0 ∨ _) hpost hlink hserving
    obtain rfl := Option.some.inj (hheard.symm.trans hheard')
    exact hprompt

/-- A probe that is on its way has gone out at a time, and after some steps the next one is started.
-/
def nextProbe (time thread steps : Nat) : List Occurrence :=
  .move (.tick time) :: .sway 0 (.ends time) :: .move (.poll 1) ::
    List.replicate steps (.move (.step thread)) ++ [.sway 0 .never, .move (.step thread)]

/-- Nothing comes back, and two probes go out at the last moment. When the third is started, the
deadline is about to pass. -/
def tardyRun : List Occurrence :=
  .move (.begin [.connect]) :: List.replicate 7 (.move (.step 0)) ++ .move (.poll 1) ::
    List.replicate 12 (.move (.step 1)) ++ nextProbe 10 2 1 ++ nextProbe 25 3 2 ++
    nextProbe 39 4 2 ++ [.move (.tick 54)]

/-- Nothing comes back, and each probe goes out at once. -/
def promptRun : List Occurrence :=
  (probingRun ++ silentEnd.take 6).map Occurrence.move

/-- Somebody serves a connection. -/
def isServed (n : Nat) (p : Pool) : Bool :=
  p.world.posts.any fun post => post.2.link? == some n && post.2.isServing

theorem exists_of_isServed (h : p.isServed n = true) :
    ∃ epoch a, (epoch, a) ∈ p.world.posts ∧ a.link? = some n ∧ a.isServing = true := by
  obtain ⟨⟨epoch, a⟩, hpost, hserves⟩ := List.any_eq_true.mp h
  obtain ⟨hlink, hserving⟩ := Bool.and_eq_true_iff.mp hserves
  exact ⟨epoch, a, hpost, beq_iff_eq.mp hlink, hserving⟩

/-- Of the time that may pass, all but a millisecond does in one run, and all of it in the other. -/
theorem silence_is_bounded_tardy :
    ((start probing []).Throughout (ClockWaits 0) tardyRun ∧
      ((start probing []).pass tardyRun).world.now = 54 ∧
      ∃ heard, ((start probing []).timesHeard 0 tardyRun).getLast? = some heard ∧
        54 ≤ heard + 10 + 3 * 15) ∧
      (start probing []).Throughout (ClockWaits 0) promptRun ∧
        (start probing []).Throughout (SendsAtOnce 0) promptRun ∧
        ((start probing []).pass promptRun).world.now = 25 ∧
        ∃ heard, ((start probing []).timesHeard 0 promptRun).getLast? = some heard ∧
          25 ≤ heard + 10 + 15 := by
  have htardy : (start probing []).Throughout (ClockWaits 0) tardyRun := by decide +kernel
  have hlate : ((start probing []).pass tardyRun).world.now = 54 := by decide +kernel
  have hprompt : (start probing []).Throughout (ClockWaits 0) promptRun := by decide +kernel
  have hsends : (start probing []).Throughout (SendsAtOnce 0) promptRun := by decide +kernel
  have hlast : ((start probing []).pass promptRun).world.now = 25 := by decide +kernel
  refine ⟨⟨htardy, hlate, ?_⟩, hprompt, hsends, hlast, ?_⟩
  · have hserved : ((start probing []).pass tardyRun).isServed 0 = true := by decide +kernel
    obtain ⟨epoch, a, hpost, hlink, hserving⟩ := exists_of_isServed hserved
    obtain ⟨heard, hheard, hslow, _⟩ :=
      silence_is_bounded probing [] 0 tardyRun htardy epoch a hpost hlink hserving
    rw [hlate] at hslow
    exact ⟨heard, hheard, hslow⟩
  · have hserved : ((start probing []).pass promptRun).isServed 0 = true := by decide +kernel
    obtain ⟨epoch, a, hpost, hlink, hserving⟩ := exists_of_isServed hserved
    obtain ⟨heard, hheard, _, hinstant⟩ :=
      silence_is_bounded probing [] 0 promptRun hprompt epoch a hpost hlink hserving
    have hbound := hinstant hsends
    rw [hlast] at hbound
    exact ⟨heard, hheard, hbound⟩

end Pool

end Simulation

end EventFeed
