import EventFeed.Proofs.Reconnection.Punctual

/-! # Retries in time

A session that nobody disturbs keeps to its timeline, whatever else goes on in a run.
-/

namespace EventFeed.Simulation

variable {c : Config} {outcomes : List Outcome} {seen : List TimedMark} {opens : List OpenScript}

namespace Pool

/-- The session keeps to the timeline and no failure can reach it, or the outcomes are used up. -/
def Keeps (c : Config) (outcomes : List Outcome) (seen : List TimedMark) (p : Pool) : Prop :=
  (p.world.Keeps c outcomes seen ∧ ∀ t ∈ p.threads, Secure t.calls) ∨ UsedUp c outcomes seen

variable {p : Pool} {m : Move} {moves : List Move} {scenario : Scenario}

/-- A move without a request lets the clock move on, or is a step of a thread. -/
theorem move_goes (hshape : p.Shaped) (hsecure : ∀ t ∈ p.threads, Secure t.calls)
    (hnone : p.requested m = []) :
    (∃ time, m = .tick time ∧ (p.move m).world = p.world.ring time) ∨
      p.world.Goes (p.call? m) (p.move m).world := by
  rcases (p.move_moves m hshape).does with htick | ⟨calls, calls', hcall, hcalls, hdoes⟩
  · exact Or.inl htick
  · right
    rw [requested, performed, List.map_eq_nil_iff, hcall] at hnone
    rw [hcall]
    exact hdoes.goes (secure_of_mem hsecure hcalls) hnone

theorem marks_tick {time : Nat} (p : Pool) : p.marks (.tick time) = [] := by
  have hring := (p.world.ring_same time).lifecycle
  change marksAt p.world.now [] _ (p.world.ring time).lifecycle.state = []
  rw [hring]
  exact marksAt_nil _ _

/-- A move that fits the outcomes keeps to the timeline. -/
theorem move_keeps (hshape : p.Shaped) (h : p.Keeps c outcomes seen)
    (hfits : p.Fits outcomes seen m) (hnone : p.requested m = []) :
    (p.move m).Keeps c outcomes (seen ++ p.marks m) := by
  rcases h with ⟨hkeeps, hsecure⟩ | hused
  · have hsecure' := move_secure m hsecure hkeeps.returns
    rcases move_goes hshape hsecure hnone with ⟨time, rfl, hw⟩ | hgoes
    · obtain ⟨hidle, hkept⟩ := hfits.1 time rfl
      rw [marks_tick, List.append_nil]
      exact Or.inl ⟨hw ▸ hkeeps.ring hidle hkept, hsecure'⟩
    · exact (hgoes.keeps hkeeps hfits.2).imp_left fun hkeeps' => ⟨hkeeps', hsecure'⟩
  · exact Or.inr hused.append

/-- Nothing is seen before the first request. -/
theorem run_fresh (hnone : (start scenario opens).trace requested moves = []) :
    let p := (start scenario opens).run moves
    p.world.Fresh scenario opens ∧ (∀ t ∈ p.threads, Secure t.calls) ∧
      (start scenario opens).trace marks moves = [] := by
  -- up to then neither a step of a thread nor the clock does anything that is seen
  induction moves using List.reverseRecOn with
  | nil => exact ⟨⟨rfl, rfl, rfl, rfl⟩, List.forall_mem_nil _, rfl⟩
  | append_singleton moves m ih =>
      rw [trace_concat, List.append_eq_nil_iff] at hnone
      obtain ⟨hfresh, hsecure, hmarks⟩ := ih hnone.1
      have hshape := run_shaped moves (start_shaped scenario opens)
      have hsecure' := move_secure m hsecure (by simp [hfresh.tasks])
      rw [run_concat, trace_concat, hmarks, List.nil_append]
      rcases move_goes hshape hsecure hnone.2 with ⟨time, rfl, hw⟩ | hgoes
      · have hring := World.ring_same ((start scenario opens).run moves).world time
        refine ⟨?_, hsecure', marks_tick _⟩
        rw [hw]
        refine ⟨?_, ?_, hring.scenario.trans hfresh.scenario, hring.opens.trans hfresh.opens⟩
        · rw [hring.tasks]
          simp [hfresh.tasks]
        · rw [hring.lifecycle]
          exact hfresh.state
      · obtain ⟨hfresh', hmarks'⟩ := hgoes.fresh hfresh
        exact ⟨hfresh', hsecure', hmarks'⟩

/-- A request is made by a thread that performs it. -/
theorem call?_of_requested {time : Nat} {a : Action} (h : p.requested m = [(time, a)]) :
    p.world.now = time ∧ ∃ rest, p.call? m = some (.actions (a :: rest)) := by
  rw [requested, performed] at h
  cases hcall : p.call? m with
  | none => simp [hcall, Call.performed] at h
  | some call =>
      cases call with
      | actions list =>
          cases list with
          | nil => simp [hcall, Call.performed] at h
          | cons b rest =>
              have hb : b.isRequest = true := by
                cases hb : b.isRequest with
                | true => rfl
                | false => simp [hcall, Call.performed, hb] at h
              simp only [hcall, Call.performed, List.filter_cons_of_pos hb, List.filter_nil,
                List.map_cons, List.map_nil, List.cons.injEq, Prod.mk.injEq, and_true] at h
              exact ⟨h.1, rest, by rw [h.2]⟩
      | _ => simp [hcall, Call.performed] at h

/-- The request to connect is seen, and the session starts. -/
theorem connect_keeps (hfresh : p.world.Fresh scenario opens)
    (hsecure : ∀ t ∈ p.threads, Secure t.calls)
    (hopens : List.Forall₂ Outcome.Describes outcomes opens)
    (hconnect : p.requested m = [(0, .connect)]) :
    (p.move m).Keeps scenario.manager.config outcomes (p.marks m) := by
  obtain ⟨hnow, rest, hcall⟩ := call?_of_requested hconnect
  have hsecure' := move_secure m hsecure (by simp [hfresh.tasks])
  cases m with
  | step i =>
      rcases p.move_step i with ⟨hnone, _⟩ | ⟨before, t, after, _, hhead, hmove⟩
      · rw [hnone] at hcall
        cases hcall
      · have hw : (p.move (.step i)).world = p.world.connect.1 := by
          obtain ⟨calls, value⟩ := t
          rw [hhead] at hcall
          obtain ⟨below, rfl⟩ := List.head?_eq_some_iff.mp hcall
          rw [hmove]
          rfl
        obtain ⟨hkeeps, hstate⟩ := hfresh.connect hopens hnow
        have hmarks : p.marks (.step i) = [(0, .state .connecting)] := by
          rw [marks, hcall, hw, World.marks, hfresh.state, hstate, hnow]
          rfl
        rw [hmarks]
        exact Or.inl ⟨hw ▸ hkeeps, hsecure'⟩
  | _ => cases hcall

theorem run_keeps (hopens : List.Forall₂ Outcome.Describes outcomes opens)
    (hconnect : (start scenario opens).trace requested moves = [(0, .connect)])
    (henacts : Enacts outcomes [] (start scenario opens) moves) :
    ((start scenario opens).run moves).Keeps scenario.manager.config outcomes
      ((start scenario opens).trace marks moves) := by
  induction moves using List.reverseRecOn with
  | nil => cases hconnect
  | append_singleton moves m ih =>
      have hshape := run_shaped moves (start_shaped scenario opens)
      obtain ⟨henacts, hfits⟩ := enacts_concat.mp henacts
      rw [trace_concat] at hconnect
      rw [run_concat, trace_concat]
      -- the only request is either the last move or has been made before it
      rcases List.append_eq_singleton_iff.mp hconnect with ⟨hbefore, hm⟩ | ⟨hbefore, hm⟩
      · obtain ⟨hfresh, hsecure, hmarks⟩ := run_fresh hbefore
        rw [hmarks]
        exact connect_keeps hfresh hsecure hopens hm
      · exact move_keeps hshape (ih hbefore henacts) hfits hm

/-- As long as the outcomes last, every attempt and every change of state comes when the timeline
says, and none has been left out when the clock moves on. The session ends with the timeline, which
is when one failure more has occurred than retries are allowed, counted since the start or the last
success. -/
theorem session_keeps_to_timeline (scenario : Scenario) (opens : List OpenScript)
    (outcomes : List Outcome) (moves : List Move)
    (hopens : List.Forall₂ Outcome.Describes outcomes opens)
    (hconnect : (start scenario opens).trace requested moves = [(0, .connect)])
    (henacts : Enacts outcomes [] (start scenario opens) moves) :
    let p := (start scenario opens).run moves
    let c := scenario.manager.config
    let seen := (start scenario opens).trace marks moves
    ((∃ ahead, seen ++ ahead = timeline c outcomes ∧
        (∀ mark ∈ ahead, millis p.world.now ≤ mark.1) ∧ (ahead ≠ [] → p.world.tasks ≠ [])) ∨
      (outcomes.length < attemptCount seen ∧ timeline c outcomes <+: seen)) ∧
      GivesUpAt (c.maxReconnectAttempts.toNat + 1) 0 (timeline c outcomes) := by
  intro p c seen
  refine ⟨?_, timeline_givesUp c outcomes⟩
  rcases run_keeps hopens hconnect henacts with ⟨hkeeps, _⟩ | hused
  · left
    cases hkeeps with
    | onTime htasks _ _ hontime =>
        obtain ⟨ahead, hahead, ha⟩ := hontime.ahead
        exact ⟨ahead, hahead, ha.le, fun _ => by simp [p, htasks]⟩
    | ended _ hseen =>
        refine ⟨[], ?_, List.forall_mem_nil _, fun h => absurd rfl h⟩
        rw [List.append_nil]
        exact hseen
  · exact Or.inr hused

/-- One retry is allowed after a failure. -/
def sparing : Scenario where
  manager :=
    { config := { baseReconnectDelayMs := 10, maxReconnectAttempts := 1, connectTimeoutMs := 20 } }

/-- An attempt is refused, the next is accepted, and the one after that gets no answer. -/
def sparingOpens : List OpenScript := [{ answer := .refuse "no" }, {}, { answer := .hang }]

def sparingOutcomes : List Outcome := [.refused, .lost 5, .hung]

/-- A thread polls the session of the first epoch and takes some steps. -/
def turn (thread steps : Nat) : List Move := .poll 1 :: List.replicate steps (.step thread)

/-- A caller connects. -/
def sparingRequest : List Move := [.begin [.connect], .step 0]

/-- The connection ends after a while. -/
def sparingCourse : List Move :=
  List.replicate 6 (.step 0) ++ turn 1 16 ++ .tick 10 :: turn 2 20 ++
    .tick 15 :: .begin [.send .ended none] :: List.replicate 3 (.step 3) ++ turn 4 15 ++
    .tick 25 :: turn 5 20 ++ .tick 45 :: turn 6 22

def sparingRun : List Move := sparingRequest ++ sparingCourse

theorem session_keeps_to_timeline_sparing :
    List.Forall₂ Outcome.Describes sparingOutcomes sparingOpens ∧
      (start sparing sparingOpens).trace requested sparingRun = [(0, .connect)] ∧
      Enacts sparingOutcomes [] (start sparing sparingOpens) sparingRun ∧
      (start sparing sparingOpens).trace marks sparingRun =
        timeline sparing.manager.config sparingOutcomes := by
  have hreturns : ∀ {answer : OpenAnswer}, OpenScript.Returns { answer } := by
    simp [OpenScript.Returns]
  have hopens : List.Forall₂ Outcome.Describes sparingOutcomes sparingOpens :=
    .cons ⟨⟨_, rfl⟩, rfl, hreturns⟩ (.cons ⟨rfl, rfl, hreturns⟩ (.cons ⟨rfl, rfl, hreturns⟩ .nil))
  have hrequest : (start sparing sparingOpens).trace requested sparingRequest = [(0, .connect)] :=
    rfl
  have hlater : ((start sparing sparingOpens).run sparingRequest).trace requested
      sparingCourse = [] := List.length_eq_zero_iff.mp (by decide +kernel)
  have hconnect : (start sparing sparingOpens).trace requested sparingRun = [(0, .connect)] := by
    rw [sparingRun, trace_append, hrequest, hlater, List.append_nil]
  have henacts : Enacts sparingOutcomes [] (start sparing sparingOpens) sparingRun := by
    decide +kernel
  have htasks : ((start sparing sparingOpens).run sparingRun).world.tasks = [] :=
    List.length_eq_zero_iff.mp (by decide +kernel)
  have hcount : attemptCount ((start sparing sparingOpens).trace marks sparingRun) = 3 := by
    decide +kernel
  have hkeeps := session_keeps_to_timeline sparing sparingOpens sparingOutcomes sparingRun hopens
    hconnect henacts
  refine ⟨hopens, hconnect, henacts, ?_⟩
  rcases hkeeps.1 with ⟨ahead, hahead, _, hleft⟩ | ⟨hused, _⟩
  · by_cases hnil : ahead = []
    · rw [hnil, List.append_nil] at hahead
      exact hahead
    · exact absurd htasks (hleft hnil)
  · rw [hcount] at hused
    exact absurd hused (Nat.lt_irrefl 3)

end Pool

end EventFeed.Simulation
