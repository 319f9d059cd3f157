import EventFeed.Proofs.Interleaving.Tasks
import EventFeed.Proofs.Serving.Conduct
import EventFeed.Proofs.Serving.Events

/-! # Heartbeats of a connection

The first probe to go out after the latest acknowledgement arms the deadline of a connection. Later
probes leave it alone and an acknowledgement clears it, so that a connection is lost for want of a
reply only if a probe has gone without one for the whole timeout.
-/

namespace EventFeed

/-- The item is the reply to a heartbeat: an event of the type for it, or a frame of its own. -/
def Inbound.isAcknowledgement : Inbound → Bool
  | .frame (.text text) =>
    match Event.parse text with
    | .ok e => e.type.name == Event.pongName
    | .error _ => false
  | .frame (.pong _) => true
  | _ => false

theorem Inbound.reading_eq_acknowledgement {item : Inbound} :
    item.reading = .acknowledgement ↔ item.isAcknowledgement = true := by
  cases item with
  | frame frame =>
      cases frame with
      | text text =>
          simp only [reading, Reading.ofText, isAcknowledgement]
          cases Event.parse text with
          | error error => simp
          | ok e =>
              simp only [beq_iff_eq, ← e.isPong_iff]
              cases e.isPong <;> simp
      | _ => simp [reading, isAcknowledgement]
  | _ => simp [reading, isAcknowledgement]

/-- The far side cannot make a connection end for want of a reply. -/
theorem Inbound.reading_ne_noReply (item : Inbound) (timeout : Duration) :
    item.reading ≠ .over (.noReply timeout) := by
  cases item with
  | frame frame =>
      cases frame with
      | text text =>
          simp only [reading, Reading.ofText]
          split
          · split <;> simp
          · simp
      | _ => simp [reading]
  | _ => simp [reading]

/-- What concerns the heartbeat of a connection. -/
inductive Beat where
  /-- A probe has gone out at a time. -/
  | pinged (time : Nat)
  | acknowledged
  deriving DecidableEq

def Outbound.beat? : Outbound → Option Beat
  | .ping time => some (.pinged time)
  | .close => none

def Inbound.beat? (item : Inbound) : Option Beat :=
  if item.isAcknowledgement then some .acknowledged else none

/-- No probe has gone out, or the latest thing to happen was an acknowledgement. -/
def Settled (beats : List Beat) : Prop := beats = [] ∨ beats.getLast? = some .acknowledged

/-- The times at which probes have gone out since the latest acknowledgement, or from the start if
there has been none. -/
def Unanswered (beats : List Beat) (pings : List Nat) : Prop :=
  ∃ before, beats = before ++ pings.map Beat.pinged ∧ Settled before

section Unanswered

variable {beats : List Beat} {pings : List Nat} {t : Nat}

theorem Unanswered.start : Unanswered [] [] := ⟨[], rfl, .inl rfl⟩

theorem Unanswered.ping (h : Unanswered beats pings) (t : Nat) :
    Unanswered (beats ++ [.pinged t]) (pings ++ [t]) := by
  obtain ⟨before, rfl, hsettled⟩ := h
  exact ⟨before, by simp, hsettled⟩

theorem Unanswered.acknowledge (beats : List Beat) : Unanswered (beats ++ [.acknowledged]) [] :=
  ⟨beats ++ [.acknowledged], by simp, .inr (by simp)⟩

end Unanswered

/-- A heartbeat waits for a reply to the first probe that is unanswered. -/
structure Heartbeat.Awaits (h : Heartbeat) (timeout : Nat) (beats : List Beat) : Prop where
  timeout_eq : h.timeout = timeout
  deadline_eq : ∃ pings, Unanswered beats pings ∧ h.deadline = pings.head?.map (· + timeout)

namespace Heartbeat

variable {h : Heartbeat} {timeout now : Nat} {beats : List Beat}

theorem Awaits.start (interval : Nat) :
    (Heartbeat.start interval timeout now).Awaits timeout [] := ⟨rfl, [], .start, rfl⟩

theorem Awaits.pingSent (hawaits : h.Awaits timeout beats) (now : Nat) :
    (h.pingSent now).Awaits timeout (beats ++ [.pinged now]) := by
  obtain ⟨htimeout, pings, hpings, hdeadline⟩ := hawaits
  refine ⟨htimeout, pings ++ [now], hpings.ping now, ?_⟩
  cases pings with
  | nil => simp [Heartbeat.pingSent, hdeadline, htimeout]
  | cons t pings => simp [Heartbeat.pingSent, hdeadline]

theorem Awaits.acknowledge (hawaits : h.Awaits timeout beats) :
    h.acknowledge.Awaits timeout (beats ++ [.acknowledged]) :=
  ⟨hawaits.timeout_eq, [], .acknowledge beats, rfl⟩

/-- A heartbeat that has expired has waited for a reply for the whole timeout. -/
theorem Awaits.expired (hawaits : h.Awaits timeout beats)
    (hexpired : h.isExpired now = true) :
    ∃ t pings, Unanswered beats (t :: pings) ∧ t + timeout ≤ now := by
  obtain ⟨_, pings, hpings, hdeadline⟩ := hawaits
  cases pings with
  | nil => simp [isExpired, hdeadline] at hexpired
  | cons t pings =>
      refine ⟨t, pings, hpings, ?_⟩
      simpa [isExpired, hdeadline] using hexpired

end Heartbeat

namespace Simulation

/-- What a session is at agrees with what has happened on its connection by now. -/
def Activity.Pulse (timeout now : Nat) (beats : List Beat) : Activity → Prop
  | .accepted _ | .greeting _ => beats = []
  | .serving _ h | .delivered _ h _ | .pinging _ h _ _ => h.Awaits timeout beats
  | .losing _ (.noReply _) => ∃ t pings, Unanswered beats (t :: pings) ∧ t + timeout ≤ now
  | _ => True

namespace World

variable {w w' : World} {n timeout : Nat} {epoch : UInt64} {a b : Activity} {seen : List Beat}

/-- What happens on a connection when the session of an epoch goes on. -/
def beatsOf (w : World) (n : Nat) (epoch : UInt64) (a : Activity) : List Beat :=
  (w.completes n a).filterMap Outbound.beat? ++ (w.takesOut n epoch a).filterMap Inbound.beat?

theorem beatsOf_of_link_ne (epoch : UInt64) (h : a.link? ≠ some n) : w.beatsOf n epoch a = [] := by
  rw [beatsOf, (idle_of_link_ne epoch h).2, takesOut_of_ne h]
  rfl

/-- What a session can do with its connection, and what happens on the connection as it does so. -/
inductive Tends (w : World) (n : Nat) : Activity → List Beat → Activity → Prop
  | greet : Tends w n (.accepted n) [] (.greeting n)
  | enter : Tends w n (.greeting n) [] (.serving n
      (.start w.scenario.manager.config.heartbeatIntervalMs.toNat
        w.scenario.manager.config.heartbeatTimeoutMs.toNat w.now))
  | acknowledge {h : Heartbeat} :
      Tends w n (.serving n h) [.acknowledged] (.serving n h.acknowledge)
  /-- It has read what is no acknowledgement, or has nothing to do. -/
  | stay {h : Heartbeat} : Tends w n (.serving n h) [] (.serving n h)
  | deliver {h : Heartbeat} {type : EventType} : Tends w n (.serving n h) [] (.delivered n h type)
  | resume {h : Heartbeat} {type : EventType} : Tends w n (.delivered n h type) [] (.serving n h)
  | probe {h : Heartbeat} {sending : Sending} : h.isExpired w.now = false →
      h.isDue w.now = true →
      Tends w n (.serving n h) [] (.pinging n (h.takeTick w.now) sending (w.now + h.timeout))
  | sent {h : Heartbeat} {sending : Sending} {limit : Nat} :
      Tends w n (.pinging n h sending limit) [.pinged w.now] (.serving n (h.pingSent w.now))
  | send {h : Heartbeat} {sending : Sending} {limit : Nat} :
      Tends w n (.pinging n h sending limit) [] (.pinging n h sending limit)
  | expire {h : Heartbeat} {reported : Duration} : h.isExpired w.now = true →
      Tends w n (.serving n h) [] (.losing n (.noReply reported))
  | lose {a : Activity} {loss : Loss} : (∀ reported, loss ≠ .noReply reported) →
      Tends w n a [] (.losing n loss)
  | leave {a b : Activity} : b.isLeaving = true → Tends w n a [] b

/-- A step of a session that has a connection, and keeps it. -/
theorem stepSession_tends {s : Session} {value : Value} (ha : a.link? = some n)
    (hb : (w.stepSession s a value).2.2.activity? = some b) (hlink : b.link? = some n) :
    w.Tends n a (w.beatsOf n s.epoch a) b := by
  -- what is no acknowledgement is no concern of the heartbeat
  have hother : ∀ {item : Inbound} {reading}, item.reading = reading →
      reading ≠ .acknowledgement → item.isAcknowledgement = false := by
    rintro item _ rfl hne
    exact Bool.eq_false_iff.mpr (Inbound.reading_eq_acknowledgement.not.mp hne)
  have hcomes := w.stepSession_comes s a value
  generalize w.stepSession s a value = r at hcomes hb
  cases hcomes with
  | connect =>
      obtain rfl := Option.some.inj ha
      obtain rfl := Option.some.inj hb
      exact .greet
  | tooLateToConnect =>
      obtain rfl := Option.some.inj hb
      exact .leave rfl
  | stop hturn =>
      obtain rfl := Option.some.inj hb
      simp only [beatsOf, completes, takesOut, hturn]
      exact .leave rfl
  | greet =>
      obtain rfl := Option.some.inj ha
      obtain rfl := Option.some.inj hb
      exact .enter
  | lapse hturn =>
      obtain rfl := Option.some.inj ha
      obtain rfl := Option.some.inj hb
      simp only [beatsOf, completes, takesOut, hturn]
      exact .expire (Heartbeat.isExpired_of_turn hturn)
  | acknowledge hturn hreading =>
      obtain rfl := Option.some.inj ha
      obtain rfl := Option.some.inj hb
      have hitem := Inbound.reading_eq_acknowledgement.mp hreading
      simp [beatsOf, completes, takesOut, hturn, Inbound.beat?, hitem, Tends.acknowledge]
  | deliver hturn hreading =>
      obtain rfl := Option.some.inj ha
      obtain rfl := Option.some.inj hb
      have hitem := hother hreading (by simp)
      simp [beatsOf, completes, takesOut, hturn, Inbound.beat?, hitem, Tends.deliver]
  | overhear hturn hreading | drop hturn hreading =>
      obtain rfl := Option.some.inj ha
      obtain rfl := Option.some.inj hb
      have hitem := hother hreading (by simp)
      simp [beatsOf, completes, takesOut, hturn, Inbound.beat?, hitem, Tends.stay]
  | @cutOff k heartbeat item _ _ hturn hreading =>
      obtain rfl := Option.some.inj ha
      obtain rfl := Option.some.inj hb
      have hitem := hother hreading (by simp)
      have hnone : w.beatsOf k s.epoch (.serving k heartbeat) = [] := by
        simp [beatsOf, completes, takesOut, hturn, Inbound.beat?, hitem]
      rw [hnone]
      exact .lose fun reported hloss => item.reading_ne_noReply reported (hloss ▸ hreading)
  | probe hturn =>
      obtain rfl := Option.some.inj ha
      obtain rfl := Option.some.inj hb
      obtain ⟨hexpired, hdue⟩ := Heartbeat.isDue_of_turn hturn
      simp only [beatsOf, completes, takesOut, hturn]
      exact .probe hexpired hdue
  | idle hturn =>
      obtain rfl := Option.some.inj ha
      obtain rfl := Option.some.inj hb
      simp only [beatsOf, completes, takesOut, hturn]
      exact .stay
  | serveOn =>
      obtain rfl := Option.some.inj ha
      obtain rfl := Option.some.inj hb
      exact .resume
  | pinged hresult =>
      obtain rfl := Option.some.inj ha
      obtain rfl := Option.some.inj hb
      obtain ⟨time, htime, rfl⟩ := Sending.result?_eq_ok.mp hresult
      simp [beatsOf, completes, takesOut, htime, Outbound.beat?, Tends.sent]
  | failPing hresult | giveUpPing hresult =>
      obtain rfl := Option.some.inj ha
      obtain rfl := Option.some.inj hb
      rw [beatsOf, completes_eq_nil (by simp [Activity.sending?, hresult])]
      exact .lose (by simp)
  | awaitPing hresult =>
      obtain rfl := Option.some.inj ha
      obtain rfl := Option.some.inj hb
      rw [beatsOf, completes_eq_nil (by simp [Activity.sending?, hresult])]
      exact .send
  | lose =>
      obtain rfl := Option.some.inj hb
      cases hlink
  | @closed k requested sending _ =>
      obtain rfl := Option.some.inj hb
      have hnone : w.beatsOf n s.epoch (.closing k requested sending) = [] := by
        rw [beatsOf]
        rcases w.completes_cases n (.closing k requested sending) with
          heq | ⟨_, _, hstays⟩ | ⟨heq, _⟩
        · rw [heq]; rfl
        · cases hstays
        · rw [heq]; rfl
      rw [hnone]
      exact .leave rfl
  | failClose hresult | awaitClose hresult =>
      obtain rfl := Option.some.inj hb
      rw [beatsOf, completes_eq_nil (by simp [Activity.sending?, hresult])]
      exact .leave rfl
  | hangUp => cases hb
  | _ => cases ha

/-- The deadline is right after a step if it was so before. -/
theorem Tends.pulse {new : List Beat} (h : w.Tends n a new b)
    (htimeout : timeout = w.scenario.manager.config.heartbeatTimeoutMs.toNat)
    (hpulse : a.Pulse timeout w.now seen) : b.Pulse timeout w.now (seen ++ new) := by
  cases h with
  | greet => rw [List.append_nil]; exact hpulse
  | enter =>
      obtain rfl := hpulse
      rw [htimeout]
      exact .start _
  | acknowledge => exact Heartbeat.Awaits.acknowledge hpulse
  | stay | deliver | resume | send => rw [List.append_nil]; exact hpulse
  | @probe heartbeat =>
      have hawaits : heartbeat.Awaits timeout seen := hpulse
      rw [List.append_nil]
      exact ⟨hawaits.timeout_eq, hawaits.deadline_eq⟩
  | sent => exact Heartbeat.Awaits.pingSent hpulse w.now
  | expire hexpired => rw [List.append_nil]; exact Heartbeat.Awaits.expired hpulse hexpired
  | @lose _ loss hloss =>
      cases loss with
      | noReply reported => exact absurd rfl (hloss reported)
      | _ => exact trivial
  | leave hleaving =>
      cases b with
      | closing | hangingUp => exact trivial
      | _ => cases hleaving

/-! ## Worlds -/

/-- Whoever has a connection is where they should be by what has happened on it. -/
structure Beating (w : World) (n : Nat) (seen : List Beat) : Prop where
  unopened : w.links.length ≤ n → seen = []
  pulse : ∀ t ∈ w.tasks, t.activity.link? = some n →
    t.activity.Pulse w.scenario.manager.config.heartbeatTimeoutMs.toNat w.now seen

theorem Beating.start (scenario : Scenario) (opens : List OpenScript) (n : Nat) :
    (World.start scenario opens).Beating n [] where
  unopened := fun _ => rfl
  pulse := fun _ h => absurd h List.not_mem_nil

/-- The frames that a connection has taken when a call goes on. -/
def completions (w : World) (n : Nat) : Option Call → List Outbound
  | some (.session epoch) => ((w.activity? epoch).map (w.completes n)).getD []
  | _ => []

/-- What happens on a connection when a call goes on. -/
def beats (w : World) (n : Nat) (call : Option Call) : List Beat :=
  (w.completions n call).filterMap Outbound.beat? ++
    (w.readings n call).filterMap Inbound.beat?

theorem beats_session {t : Task} (htask : w.task? epoch = some t) :
    w.beats n (some (.session epoch)) = w.beatsOf n epoch t.activity := by
  simp [beats, completions, readings, activity?, htask, beatsOf]

/-- One thing happens at a time, and a probe goes out at the time that it is. -/
theorem beatsOf_cases (w : World) (n : Nat) (epoch : UInt64) (a : Activity) :
    w.beatsOf n epoch a = [] ∨ w.beatsOf n epoch a = [.pinged w.now] ∨
      w.beatsOf n epoch a = [.acknowledged] := by
  have hsends : w.takesOut n epoch a = [] → w.beatsOf n epoch a = [] ∨
      w.beatsOf n epoch a = [.pinged w.now] ∨ w.beatsOf n epoch a = [.acknowledged] := by
    intro hreads
    rw [beatsOf, hreads, List.filterMap_nil, List.append_nil]
    rcases w.completes_cases n a with hnone | ⟨hping, _⟩ | ⟨hclose, _⟩
    · exact .inl (by rw [hnone]; rfl)
    · exact .inr (.inl (by rw [hping]; rfl))
    · exact .inl (by rw [hclose]; rfl)
  cases a with
  | serving k h =>
      simp only [beatsOf, completes, takesOut, List.filterMap_nil, List.nil_append]
      cases h.turn w.now (w.lifecycle.isStopped epoch) (w.inbox k) with
      | read item rest =>
          cases hitem : item.isAcknowledgement <;> by_cases hk : k = n <;>
            simp [Inbound.beat?, hitem, hk]
      | _ => exact .inl rfl
  | _ => exact hsends rfl

/-- Something happens on a connection only when a session that has it goes on. -/
theorem exists_of_beats {call : Option Call} (h : w.beats n call ≠ []) :
    ∃ t, w.task? t.session.epoch = some t ∧ call = some (.session t.session.epoch) ∧
      t.activity.link? = some n := by
  match call, h with
  | some (.session epoch), h =>
      cases htask : w.task? epoch with
      | none => simp [beats, completions, readings, activity?, htask] at h
      | some t =>
          obtain rfl := epoch_of_task? htask
          rw [beats_session htask] at h
          refine ⟨t, htask, rfl, ?_⟩
          by_contra hlink
          exact h (beatsOf_of_link_ne _ hlink)

theorem beats_cases (w : World) (n : Nat) (call : Option Call) :
    w.beats n call = [] ∨ w.beats n call = [.pinged w.now] ∨ w.beats n call = [.acknowledged] := by
  by_cases hbeats : w.beats n call = []
  · exact .inl hbeats
  · obtain ⟨t, htask, rfl, _⟩ := exists_of_beats hbeats
    rw [beats_session htask]
    exact w.beatsOf_cases n _ _

theorem mem_posts {t : Task} (h : t ∈ w.tasks) : (t.session.epoch, t.activity) ∈ w.posts :=
  List.mem_map_of_mem h

/-- Whoever stands still while another session goes on has another connection. -/
theorem Custody.beats_eq_nil {call : Option Call} {t : Task} (h : w.Custody) (ht : t ∈ w.tasks)
    (hlink : t.activity.link? = some n) (hcall : call ≠ some (.session t.session.epoch)) :
    w.beats n call = [] := by
  by_contra hbeats
  obtain ⟨u, htask, rfl, hulink⟩ := exists_of_beats hbeats
  have halone := h.alone (mem_posts_of_task? htask) (mem_posts ht) hulink hlink
  exact hcall (by rw [halone.1])

/-- Nothing has happened on a connection before it is accepted. -/
theorem Beating.accept (h : w.Beating n seen) (ha : a.link? = none)
    (hhands : w.Hands epoch a b) (hlink : b.link? = some n) :
    seen = [] ∧ b = .accepted n := by
  obtain ⟨hn, hb⟩ := hhands.accepted ha hlink
  exact ⟨h.unopened (Nat.le_of_eq hn.symm), hb⟩

theorem Beating.step {t : Task} {value : Value} {w₁ : World} {s : Session} {progress : Progress}
    (h : w.Beating n seen) (htask : w.task? t.session.epoch = some t)
    (hstep : w.stepSession t.session t.activity value = (w₁, s, progress))
    (hb : progress.activity? = some b) (hlink : b.link? = some n) :
    b.Pulse w.scenario.manager.config.heartbeatTimeoutMs.toNat w.now
      (seen ++ w.beats n (some (.session t.session.epoch))) := by
  have hnext : (w.stepSession t.session t.activity value).2.2.activity? = some b := by
    rw [hstep]
    exact hb
  rw [beats_session htask]
  rcases (stepSession_hands hnext).kept hlink with ha | ⟨_, _, ha, _⟩
  · exact (stepSession_tends ha hnext hlink).pulse rfl
      (h.pulse t (List.mem_of_find?_eq_some htask) ha)
  · obtain ⟨rfl, rfl⟩ := h.accept ha (stepSession_hands hnext) hlink
    rw [beatsOf_of_link_ne _ (by simp [ha])]
    rfl

end World

/-- As time goes by, what a session is at goes on to agree with what has happened. -/
theorem Activity.Pulse.elapse {a : Activity} {timeout now now' : Nat} {seen : List Beat}
    (h : a.Pulse timeout now seen) (hnow : now ≤ now') : a.Pulse timeout now' seen := by
  cases a with
  | losing n loss =>
      cases loss with
      | noReply =>
          obtain ⟨t, pings, hpings, hle⟩ := h
          exact ⟨t, pings, hpings, Nat.le_trans hle hnow⟩
      | _ => exact trivial
  | _ => exact h

/-! ## Runs -/

namespace Pool

/-- What happens on a connection with a move: a probe has gone out, or a reply is read. -/
def beats (n : Nat) (p : Pool) (m : Move) : List Beat := p.world.beats n (p.call? m)

variable {p : Pool} {m : Move} {n : Nat} {seen : List Beat}

theorem links_le_move (hshape : p.Shaped) (hcustody : p.world.Custody) :
    p.world.links.length ≤ (p.move m).world.links.length := by
  have hopened : ∀ {k}, ((p.move m).world.outgoing 0).opened = k →
      (p.move m).world.links.length = k := id
  cases move_uses (m := m) hshape hcustody with
  | idle _ _ hout => exact Nat.le_of_eq (hopened (by rw [hout]; rfl)).symm
  | goes _ _ _ _ _ hout =>
      rw [hopened (by rw [hout])]
      exact Nat.le_add_right _ _
  | ends _ _ _ _ _ hout => exact Nat.le_of_eq (hopened (by rw [hout]; rfl)).symm

theorem move_beating (hshape : p.Shaped) (hcustody : p.world.Custody)
    (h : p.world.Beating n seen) : (p.move m).world.Beating n (seen ++ p.beats n m) := by
  refine ⟨fun hle => ?_, fun t ht hlink => ?_⟩
  · have hunopened := Nat.le_trans (links_le_move (m := m) hshape hcustody) hle
    rw [h.unopened hunopened, List.nil_append]
    by_contra hbeats
    obtain ⟨u, htask, _, hulink⟩ := World.exists_of_beats hbeats
    exact absurd (hcustody.opened (World.mem_posts_of_task? htask) hulink)
      (Nat.not_lt.mpr hunopened)
  · have hscenario : (p.move m).world.scenario = p.world.scenario :=
      run_scenario [m] hshape
    rw [hscenario]
    -- the cases need the session and its activity to be variables
    have hfollows := move_follows (m := m) hshape t ht
    generalize t.session = s, t.activity = a at hfollows hlink ⊢
    refine Activity.Pulse.elapse ?_ (p.now_le_move m hshape)
    cases hfollows with
    | stays hu hcall =>
        rw [beats, hcustody.beats_eq_nil hu hlink hcall, List.append_nil]
        exact h.pulse _ hu hlink
    | starts => cases hlink
    | steps hcall htask hstep hb =>
        rw [beats, hcall]
        exact h.step htask hstep hb hlink

theorem run_beating (moves : List Move) (hshape : p.Shaped) (hcustody : p.world.Custody)
    (h : p.world.Beating n seen) :
    (p.run moves).world.Beating n (seen ++ p.trace (beats n) moves) := by
  induction moves using List.reverseRecOn with
  | nil => simpa using h
  | append_singleton moves m ih =>
      rw [run_concat, trace_concat, ← List.append_assoc]
      exact move_beating (run_shaped moves hshape) (run_custody moves hshape hcustody) ih

/-- A probe goes out with a move, and none before it is unanswered. -/
def Arms (p : Pool) (n : Nat) (before : List Move) (m : Move) : Prop :=
  (p.run before).beats n m = [.pinged (p.run before).world.now] ∧
    Settled (p.trace (beats n) before)

/-- The first of the probes that are unanswered has armed the deadline. -/
theorem exists_arms_of_unanswered {t : Nat} {pings : List Nat} {moves : List Move}
    (h : Unanswered (p.trace (beats n) moves) (t :: pings)) :
    ∃ before m after, moves = before ++ m :: after ∧ p.Arms n before m ∧
      t = (p.run before).world.now ∧
      .acknowledged ∉ (p.run (before ++ [m])).trace (beats n) after := by
  obtain ⟨earlier, htrace, hsettled⟩ := h
  obtain ⟨before, m, after, left, right, rfl, hbeats, rfl, hafter⟩ := exists_of_trace htrace
  -- the probe is all that happens with this move
  have hping : .pinged t ∈ (p.run before).beats n m := by simp [hbeats]
  rcases (p.run before).world.beats_cases n ((p.run before).call? m) with heq | heq | heq
  · rw [beats, heq] at hping
    cases hping
  · rw [beats, heq] at hbeats
    obtain ⟨rfl, hone⟩ | ⟨_, _, hnone⟩ := List.append_eq_cons_iff.mp hbeats.symm
    · obtain ⟨hnow, rfl⟩ := List.cons.inj hone
      obtain rfl := Beat.pinged.inj hnow
      rw [List.append_nil] at hsettled
      refine ⟨before, m, after, rfl, ⟨heq, hsettled⟩, rfl, ?_⟩
      intro hmem
      rw [List.nil_append] at hafter
      rw [← hafter] at hmem
      obtain ⟨time, _, hacknowledged⟩ := List.mem_map.mp hmem
      cases hacknowledged
    · simp at hnone
  · rw [beats, heq] at hping
    simp at hping

theorem run_pulse {epoch : UInt64} {a : Activity} (scenario : Scenario) (opens : List OpenScript)
    (moves : List Move) (hpost : (epoch, a) ∈ ((start scenario opens).run moves).world.posts)
    (hlink : a.link? = some n) :
    a.Pulse scenario.manager.config.heartbeatTimeoutMs.toNat
      ((start scenario opens).run moves).world.now
      ((start scenario opens).trace (beats n) moves) := by
  have hshape := start_shaped scenario opens
  have hbeating := run_beating moves hshape (World.Custody.start scenario opens)
    (World.Beating.start scenario opens n)
  obtain ⟨t, ht, heq⟩ := List.mem_map.mp hpost
  obtain ⟨rfl, rfl⟩ := Prod.mk.inj heq
  have hpulse := hbeating.pulse t ht hlink
  rw [run_scenario moves hshape, List.nil_append] at hpulse
  exact hpulse

/-- Of every connection, in every run and however the sessions are scheduled:

* whenever the session that serves it is at the head of its loop, the deadline is the time at which
  the first of the unanswered probes has gone out, plus the timeout, and there is none if no probe
  is unanswered;
* it is given up for want of a reply only if a probe that has armed the deadline has gone out, no
  reply has been read from then on, and the timeout has passed;
* it is never given up for want of a reply if after each probe that arms the deadline a reply is
  read in time. -/
theorem deadline_follows_first_probe (scenario : Scenario) (opens : List OpenScript)
    (moves : List Move) (n : Nat) :
    let p := start scenario opens
    let q := p.run moves
    let timeout := scenario.manager.config.heartbeatTimeoutMs.toNat
    (∀ epoch h, (epoch, .serving n h) ∈ q.world.posts →
      ∃ pings, Unanswered (p.trace (beats n) moves) pings ∧
        h.deadline = pings.head?.map (· + timeout)) ∧
      (∀ epoch reported, (epoch, .losing n (.noReply reported)) ∈ q.world.posts →
        ∃ before m after, moves = before ++ m :: after ∧ p.Arms n before m ∧
          .acknowledged ∉ (p.run (before ++ [m])).trace (beats n) after ∧
          (p.run before).world.now + timeout ≤ q.world.now) ∧
      ((∀ before m after, moves = before ++ m :: after → p.Arms n before m →
          (p.run before).world.now + timeout ≤ q.world.now →
          ∃ during m' rest, after = during ++ m' :: rest ∧
            .acknowledged ∈ (p.run (before ++ m :: during)).beats n m' ∧
            (p.run (before ++ m :: during)).world.now < (p.run before).world.now + timeout) →
        ∀ earlier later, moves = earlier ++ later → ∀ epoch reported,
          (epoch, .losing n (.noReply reported)) ∉ (p.run earlier).world.posts) := by
  intro p q timeout
  have hshape : p.Shaped := start_shaped scenario opens
  have hlost : ∀ {moves : List Move} {epoch reported},
      (epoch, .losing n (.noReply reported)) ∈ (p.run moves).world.posts →
      ∃ before m after, moves = before ++ m :: after ∧ p.Arms n before m ∧
        .acknowledged ∉ (p.run (before ++ [m])).trace (beats n) after ∧
        (p.run before).world.now + timeout ≤ (p.run moves).world.now := by
    intro moves epoch reported hpost
    obtain ⟨t, pings, hpings, hle⟩ := run_pulse scenario opens moves hpost rfl
    obtain ⟨before, m, after, hmoves, harms, rfl, hnone⟩ := exists_arms_of_unanswered hpings
    exact ⟨before, m, after, hmoves, harms, hnone, hle⟩
  refine ⟨?_, fun epoch reported => hlost, ?_⟩
  · intro epoch h hpost
    exact (run_pulse scenario opens moves hpost rfl).deadline_eq
  · intro hanswered earlier later hmoves epoch reported hpost
    obtain ⟨before, m, after, rfl, harms, hnone, hle⟩ := hlost hpost
    have hlast := now_le_run later (run_shaped (before ++ m :: after) hshape)
    rw [← run_append, ← hmoves] at hlast
    obtain ⟨during, m', rest, hafter, hread, htime⟩ := hanswered before m (after ++ later)
      (by rw [hmoves]; simp) harms (Nat.le_trans hle hlast)
    rcases List.append_eq_append_iff.mp hafter with ⟨between, hduring, _⟩ | ⟨between, hsplit, hrest⟩
    · -- the reply would have come after the connection was given up
      have hlate := now_le_run between (run_shaped (before ++ m :: after) hshape)
      rw [← run_append, List.append_assoc, List.cons_append, ← hduring] at hlate
      omega
    · cases between with
      | nil =>
          rw [List.append_nil] at hsplit
          subst hsplit
          omega
      | cons first between =>
          -- the reply would have been read before
          obtain ⟨rfl, _⟩ := List.cons.inj hrest
          apply hnone
          rw [hsplit, trace_append, trace, ← run_append]
          refine List.mem_append_right _ (List.mem_append_left _ ?_)
          simpa using hread

/-- Probes are sent more often than their replies may take. -/
def probing : Scenario where
  manager := { config := { heartbeatIntervalMs := 10, heartbeatTimeoutMs := 15 } }

/-- A caller connects, and the first probe goes out. -/
def probingRun : List Move :=
  .begin [.connect] :: List.replicate 7 (.step 0) ++ .poll 1 :: List.replicate 12 (.step 1) ++
    .tick 10 :: .poll 1 :: List.replicate 3 (.step 2)

/-- Nothing comes back, and the second probe makes no difference. -/
def silentEnd : List Move :=
  .tick 20 :: .poll 1 :: List.replicate 3 (.step 3) ++ [.tick 25, .poll 1, .step 4]

/-- A reply comes before the second probe. -/
def answeredEnd : List Move :=
  .tick 12 :: .begin [.send (.frame (.pong ByteArray.empty)) none] :: .step 3 :: .poll 1 ::
    List.replicate 2 (.step 4) ++ [.tick 25, .poll 1, .step 5]

/-- What happens on a connection with a move, and when. -/
def timedBeats (n : Nat) (p : Pool) (m : Move) : List (Nat × Beat) :=
  (p.beats n m).map (p.world.now, ·)

/-- A session that gives a connection up for want of a reply. -/
def givesUp (n : Nat) (post : UInt64 × Activity) : Bool :=
  match post.2 with
  | .losing k (.noReply _) => k == n
  | _ => false

theorem exists_of_givesUp {post : UInt64 × Activity} (h : givesUp n post = true) :
    ∃ epoch reported, post = (epoch, .losing n (.noReply reported)) := by
  obtain ⟨epoch, a⟩ := post
  unfold givesUp at h
  split at h
  next k reported ha =>
    obtain rfl : a = .losing k (.noReply reported) := ha
    exact ⟨epoch, reported, by rw [beq_iff_eq.mp h]⟩
  next => cases h

theorem deadline_follows_first_probe_probing :
    (∃ before m after, probingRun ++ silentEnd = before ++ m :: after ∧
      (start probing []).Arms 0 before m ∧
      .acknowledged ∉ ((start probing []).run (before ++ [m])).trace (beats 0) after ∧
      ((start probing []).run before).world.now + 15 ≤ 25) ∧
      ∀ earlier later, probingRun ++ answeredEnd = earlier ++ later → ∀ epoch reported,
        (epoch, .losing 0 (.noReply reported)) ∉ ((start probing []).run earlier).world.posts := by
  have hsilent : (((start probing []).run (probingRun ++ silentEnd)).world.posts.any
      (givesUp 0)) = true := by decide +kernel
  have hlast : ((start probing []).run (probingRun ++ silentEnd)).world.now = 25 := by
    decide +kernel
  have htrace : (start probing []).trace (timedBeats 0) (probingRun ++ answeredEnd) =
      [(10, .pinged 10), (12, .acknowledged)] := by decide +kernel
  obtain ⟨_, hlost, _⟩ := deadline_follows_first_probe probing [] (probingRun ++ silentEnd) 0
  obtain ⟨_, _, hanswered⟩ := deadline_follows_first_probe probing [] (probingRun ++ answeredEnd) 0
  constructor
  · obtain ⟨post, hpost, hgivesUp⟩ := List.any_eq_true.mp hsilent
    obtain ⟨epoch, reported, rfl⟩ := exists_of_givesUp hgivesUp
    have hgone := hlost epoch reported hpost
    rw [hlast] at hgone
    exact hgone
  · refine hanswered ?_
    intro before m after hmoves harms _
    obtain ⟨hping, _⟩ := harms
    -- the probe is the first thing to happen, and the reply the second
    rw [hmoves, trace_append, trace, timedBeats, hping] at htrace
    cases hbefore : (start probing []).trace (timedBeats 0) before with
    | nil =>
        rw [hbefore] at htrace
        obtain ⟨hfirst, hafter⟩ := List.cons.inj htrace
        obtain ⟨hnow, _⟩ := Prod.mk.inj hfirst
        rw [← List.nil_append [_]] at hafter
        obtain ⟨during, m', rest, left, right, rfl, hread, _⟩ := exists_of_trace hafter
        rw [← run_concat, ← run_append, ← List.append_cons] at hread
        have hmem : (12, Beat.acknowledged) ∈
            timedBeats 0 ((start probing []).run (before ++ m :: during)) m' := by simp [hread]
        obtain ⟨beat, hbeat, heq⟩ := List.mem_map.mp hmem
        obtain ⟨htime, rfl⟩ := Prod.mk.inj heq
        refine ⟨during, m', rest, rfl, hbeat, ?_⟩
        rw [htime, hnow]
        decide
    | cons beat beats =>
        rw [hbefore] at htrace
        obtain ⟨_, hrest⟩ := List.cons.inj htrace
        cases beats <;> simp at hrest

end Pool

end Simulation

end EventFeed
