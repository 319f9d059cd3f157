import EventFeed.Proofs.Config.Validity
import EventFeed.Proofs.Interleaving.Tasks
import EventFeed.Proofs.Reconnection.Delays

/-! # The times that sessions work with

A manager is built from a valid configuration, and its sessions take their times from it: at no time
does a session work with a time of zero.
-/

namespace EventFeed

theorem Config.Valid.pos {c : Config} (h : c.Valid) {f : Config.Field}
    (hf : f ∈ Config.positiveFields) : 0 < c.number f := by
  obtain ⟨hendpoint, hattempts⟩ := Config.mem_positiveFields.mp hf
  exact h.positive f hendpoint hattempts

theorem Duration.eq_of_nanos {d e : Duration} (h : d.nanos = e.nanos) : d = e := by
  cases d
  cases e
  cases h
  rfl

theorem Duration.ofMillis_pos {ms : UInt64} (h : 0 < ms.toNat) : 0 < (ofMillis ms).nanos :=
  Nat.mul_pos h (by decide)

namespace Backoff

theorem delayFor_pos_of_valid {c : Config} (h : c.Valid) (attempt : UInt32) :
    0 < ((ofConfig c).delayFor attempt).nanos := by
  have hbase : 0 < (ofConfig c).base.nanos :=
    Duration.ofMillis_pos (h.pos (by decide : .baseReconnectDelay ∈ Config.positiveFields))
  have hmax : 0 < (ofConfig c).max.nanos :=
    Duration.ofMillis_pos (h.pos (by decide : .maxReconnectDelay ∈ Config.positiveFields))
  exact delayFor_pos hbase hmax attempt

/-- The delays of a backoff that has been handed out in part are those of a new one. -/
theorem delayFor_of_reset {b : Backoff} {c : Config} (h : b.reset = .ofConfig c)
    (attempt : UInt32) : b.delayFor attempt = (ofConfig c).delayFor attempt := by
  rw [← h, delayFor_reset]

/-- The first delay is the base delay. -/
theorem delayFor_zero {c : Config} (h : c.Valid) :
    (ofConfig c).delayFor 0 = c.baseReconnectDelay := by
  have hle : c.baseReconnectDelay.nanos ≤ c.maxReconnectDelay.nanos :=
    Nat.mul_le_mul_right _ h.ordered
  have hnanos : ((ofConfig c).delayFor 0).nanos = c.baseReconnectDelay.nanos := by
    rw [nanos_delayFor, factor_of_lt (by decide)]
    simpa [ofConfig] using Nat.min_eq_left hle
  exact Duration.eq_of_nanos hnanos

end Backoff

namespace Simulation

/-- The times that a session works with are those of a configuration, and none of them is zero. -/
def Activity.Timed (c : Config) (now : Nat) : Activity → Prop
  | .opening _ _ limit | .answering _ limit =>
    ∃ started ≤ now, limit = started + c.connectTimeoutMs.toNat ∧ started < limit
  | .serving _ h | .delivered _ h _ | .pinging _ h _ _ =>
    h.interval = c.heartbeatIntervalMs.toNat ∧ 0 < h.interval ∧
      h.timeout = c.heartbeatTimeoutMs.toNat ∧ 0 < h.timeout
  | .retrying (some delay) => 0 < delay.nanos
  | _ => True

theorem Activity.Timed.elapse {c : Config} {now later : Nat} {a : Activity} (h : a.Timed c now)
    (hle : now ≤ later) : a.Timed c later := by
  have hlimit : ∀ limit, (∃ started ≤ now, limit = started + c.connectTimeoutMs.toNat ∧
      started < limit) → ∃ started ≤ later, limit = started + c.connectTimeoutMs.toNat ∧
        started < limit := by
    rintro limit ⟨started, hstarted, hrest⟩
    exact ⟨started, Nat.le_trans hstarted hle, hrest⟩
  cases a with
  | opening script ready limit => exact hlimit limit h
  | answering script limit => exact hlimit limit h
  | retrying delay => cases delay <;> exact h
  | _ => exact h

namespace World

variable {w : World} {c : Config} {s : Session} {a b : Activity} {value : Value}

/-- A step of a session takes its times from the configuration. -/
theorem stepSession_timed (hconfig : w.scenario.manager.config = c) (hvalid : c.Valid)
    (hbackoff : s.backoff.reset = .ofConfig c) (ha : a.Timed c w.now)
    (hb : (w.stepSession s a value).2.2.activity? = some b) : b.Timed c w.now := by
  subst hconfig
  have hcomes := w.stepSession_comes s a value
  generalize w.stepSession s a value = r at hcomes hb
  cases hcomes with
  | call =>
      obtain rfl := Option.some.inj hb
      have hpos := hvalid.pos (by decide : .connectTimeout ∈ Config.positiveFields)
      exact ⟨w.now, Nat.le_refl _, by rfl, Nat.lt_add_of_pos_right hpos⟩
  | greet =>
      obtain rfl := Option.some.inj hb
      have hinterval := hvalid.pos (by decide : .heartbeatInterval ∈ Config.positiveFields)
      have htimeout := hvalid.pos (by decide : .heartbeatTimeout ∈ Config.positiveFields)
      exact ⟨by rfl, hinterval, by rfl, htimeout⟩
  | retreat =>
      obtain rfl := Option.some.inj hb
      cases hdelay : s.setback.1 with
      | none => exact trivial
      | some delay =>
          change 0 < delay.nanos
          rw [Backoff.next_eq_some hdelay, Backoff.delayFor_of_reset hbackoff]
          exact Backoff.delayFor_pos_of_valid hvalid _
  | answer | await | hang | deliver | acknowledge | overhear | drop | probe | idle | serveOn
  | pinged | awaitPing =>
      -- the times that the session has been given stay
      obtain rfl := Option.some.inj hb
      exact ha
  | _ => cases hb <;> exact trivial

theorem stepSession_backoff (w : World) (s : Session) (a : Activity) (value : Value) :
    (w.stepSession s a value).2.1.backoff.reset = s.backoff.reset := by
  have hcomes := w.stepSession_comes s a value
  generalize w.stepSession s a value = r at hcomes ⊢
  cases hcomes with
  | retreat | tooLateToRetreat => exact s.backoff.next_reset
  | _ => rfl

end World

namespace Pool

variable {p : Pool} {m : Move}

/-- Every session works with the times of the configuration of its manager. -/
def Timed (p : Pool) : Prop :=
  ∀ t ∈ p.world.tasks, t.session.backoff.reset = .ofConfig p.world.scenario.manager.config ∧
    t.activity.Timed p.world.scenario.manager.config p.world.now

theorem move_timed (hshape : p.Shaped) (hvalid : p.world.scenario.manager.config.Valid)
    (htimed : p.Timed) : (p.move m).Timed := by
  intro t ht
  have hscenario : (p.move m).world.scenario = p.world.scenario :=
    run_scenario [m] hshape
  have hlater : ∀ (s : Session) (a : Activity), p.world.Follows (p.call? m) s a →
      s.backoff.reset = .ofConfig p.world.scenario.manager.config ∧
        a.Timed p.world.scenario.manager.config p.world.now := by
    intro s a hfollows
    cases hfollows with
    | stays hmem _ => exact htimed _ hmem
    | starts => exact ⟨by rfl, trivial⟩
    | @steps u value w₁ _ progress _ _ htask hstep hb =>
        obtain ⟨hbackoff, hactivity⟩ := htimed u (List.mem_of_find?_eq_some htask)
        constructor
        · have hkept := p.world.stepSession_backoff u.session u.activity value
          rw [hstep] at hkept
          rw [← hbackoff, ← hkept]
        · have hnext : (p.world.stepSession u.session u.activity value).2.2.activity? = some a := by
            rw [hstep]
            exact hb
          exact World.stepSession_timed rfl hvalid hbackoff hactivity hnext
  obtain ⟨hbackoff, hactivity⟩ := hlater _ _ (move_follows hshape t ht)
  rw [hscenario]
  exact ⟨hbackoff, hactivity.elapse (p.now_le_move m hshape)⟩

theorem run_timed (moves : List Move) (hshape : p.Shaped)
    (hvalid : p.world.scenario.manager.config.Valid) (htimed : p.Timed) : (p.run moves).Timed := by
  have hboth := @run_keeps_of_move
    (fun q => q.world.scenario.manager.config.Valid ∧ q.Timed) p
    (fun q m hshaped hq => ?_) moves hshape ⟨hvalid, htimed⟩
  · exact hboth.2
  · have hscenario : (q.move m).world.scenario = q.world.scenario := run_scenario [m] hshaped
    refine ⟨?_, move_timed hshaped hq.1 hq.2⟩
    rw [hscenario]
    exact hq.1

/-- No configuration reaches a session without validation.

What is loaded is valid, and so is what the variables make of it; a manager can be built from either
where there is an event loop. Whatever a manager is built from is valid, and in every run, whoever
takes part in it, its sessions work with the times of that configuration, none of which is zero: the
interval and the timeout of a heartbeat, the time that an attempt to connect may take, and the
delays of retries, the first of which is the base delay. -/
theorem sessions_work_with_valid_configurations :
    (∀ path file (c : Config), Config.load path file = .ok c →
      (c.Valid ∧ ∃ m, Manager.build c true = .ok m ∧ m.config = c) ∧
        ∀ env c', c.applyEnvironment env = .ok c' →
          c'.Valid ∧ ∃ m, Manager.build c' true = .ok m ∧ m.config = c') ∧
    ∀ (c : Config) insideRuntime m, Manager.build c insideRuntime = .ok m →
      c.Valid ∧ ∀ (scenario : Scenario) opens moves, scenario.manager = m →
        let p := (start scenario opens).run moves
        ∀ t ∈ p.world.tasks, t.activity.Timed c p.world.now ∧
          (∀ attempt, 0 < (t.session.backoff.delayFor attempt).nanos) ∧
          t.session.backoff.delayFor 0 = c.baseReconnectDelay := by
  constructor
  · intro path file c hload
    have hvalid := Config.valid_of_load hload
    refine ⟨⟨hvalid, Manager.build_of_valid hvalid⟩, ?_⟩
    intro env c' happly
    have hvalid' := Config.valid_of_applyEnvironment happly
    exact ⟨hvalid', Manager.build_of_valid hvalid'⟩
  · intro c insideRuntime m hbuild
    obtain ⟨hvalid, hconfig⟩ := Manager.valid_of_build hbuild
    refine ⟨hvalid, ?_⟩
    intro scenario opens moves hmanager p t ht
    have hscenario : p.world.scenario.manager.config = c := by
      rw [run_scenario moves (start_shaped scenario opens), ← hconfig, ← hmanager]
      rfl
    have hstart : (start scenario opens).Timed := fun t ht => absurd ht List.not_mem_nil
    have hrun := run_timed moves (start_shaped scenario opens)
      (by rw [← hconfig, ← hmanager] at hvalid; exact hvalid) hstart
    obtain ⟨hbackoff, hactivity⟩ := hrun t ht
    rw [hscenario] at hbackoff hactivity
    refine ⟨hactivity, ?_, ?_⟩
    · intro attempt
      rw [Backoff.delayFor_of_reset hbackoff]
      exact Backoff.delayFor_pos_of_valid hvalid attempt
    · rw [Backoff.delayFor_of_reset hbackoff, Backoff.delayFor_zero hvalid]

/-- A caller connects, and the session comes to serve the connection that it opens. -/
def greetedRun : List Move :=
  .begin [.connect] :: List.replicate 7 (.step 0) ++ .poll 1 :: List.replicate 11 (.step 1)

/-- What a configuration file says, and what a variable makes of it. -/
def fastFile : Config := { heartbeatIntervalMs := 500 }

def fast : Config := { fastFile with heartbeatTimeoutMs := 200 }

theorem valid_fast : fast.Valid := by
  refine ⟨Config.valid_default.endpoint, ?_, by decide⟩
  intro f
  cases f <;> decide

theorem build_fast : Manager.build fast true = .ok ⟨fast, "ws://127.0.0.1:8080/ws"⟩ := by
  have hurl : fast.endpointUrl = .ok ⟨"ws", "//127.0.0.1:8080/ws"⟩ :=
    Config.endpointUrl_eq_ok.mpr ⟨Config.parse_default_endpoint, .inl rfl⟩
  rw [Manager.build, Config.validate_eq_ok.mpr valid_fast, hurl]
  rfl

/-- The file is loaded and the variable is applied to it; a manager is built from that, and its
session probes its connection every half second. -/
theorem sessions_work_with_valid_configurations_fast :
    Config.load Config.fileName (.bytes "heartbeat_interval_ms = 500".toUTF8) = .ok fastFile ∧
      fastFile.applyEnvironment ⟨[("REALTIME_HEARTBEAT_TIMEOUT_MS", "200".toUTF8)]⟩ = .ok fast ∧
      ∃ m, Manager.build fast true = .ok m ∧
        ∃ t ∈ ((start { manager := m } []).run greetedRun).world.tasks,
          ∃ h, t.activity = .serving 0 h ∧ h.interval = 500 ∧ 0 < h.interval ∧
            h.timeout = 200 ∧ 0 < h.timeout := by
  have hload : Config.load Config.fileName (.bytes "heartbeat_interval_ms = 500".toUTF8) =
      .ok fastFile := by
    refine Config.load_eq_ok.mpr (.inr ⟨"heartbeat_interval_ms = 500", by rfl, by rfl, ?_⟩)
    refine ⟨Config.valid_default.endpoint, ?_, by decide⟩
    intro f
    cases f <;> decide
  have happly : fastFile.applyEnvironment
      ⟨[("REALTIME_HEARTBEAT_TIMEOUT_MS", "200".toUTF8)]⟩ = .ok fast := by
    exact Config.applyEnvironment_eq_ok.mpr ⟨eq_ok_of_toOption (by decide +kernel), valid_fast⟩
  obtain ⟨hloaded, hbuilt⟩ := sessions_work_with_valid_configurations
  obtain ⟨-, happlied⟩ := hloaded _ _ _ hload
  obtain ⟨-, m, hbuild, -⟩ := happlied _ _ happly
  refine ⟨hload, happly, m, hbuild, ?_⟩
  obtain ⟨-, hruns⟩ := hbuilt _ _ _ hbuild
  have hserving : ((start { manager := m } []).run greetedRun).world.tasks.map Task.activity =
      [.serving 0 (.start 500 200 0)] := by
    obtain rfl := Except.ok.inj (hbuild.symm.trans build_fast)
    rfl
  have hmem : Activity.serving 0 (.start 500 200 0) ∈
      ((start { manager := m } []).run greetedRun).world.tasks.map Task.activity := by
    rw [hserving]
    exact List.mem_cons_self
  obtain ⟨t, ht, hactivity⟩ := List.mem_map.mp hmem
  obtain ⟨htimed, -⟩ := hruns { manager := m } [] greetedRun rfl t ht
  rw [hactivity] at htimed
  exact ⟨t, ht, _, hactivity, htimed⟩

end Pool

end Simulation

end EventFeed
