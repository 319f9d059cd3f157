import EventFeed.Proofs.Dispatch.Invocation
import EventFeed.Proofs.Dispatch.Subscriptions
import Mathlib.Algebra.GroupWithZero.Nat
import Mathlib.Data.Prod.Lex

/-! # Callbacks come to an end

A thread that is let alone comes to the end of the callbacks that it has called. What a callback
does calls further callbacks, and they may do the same, but each scripted callback acts only so many
times. Between two actions a thread works off what lies on it: deliveries and changes that are to
be told take their lists of callbacks, and each callback in a list takes its few steps.
-/

namespace EventFeed.Simulation

/-- How often scripted callbacks may act that have been called so far. -/
def runsLeft {Script : Type} (runs : Script → Nat) (scripts : List (String × Script))
    (called : List String) : Nat :=
  (scripts.map fun s => runs s.2 - called.count s.1).sum

section RunsLeft

variable {Script : Type} {runs : Script → Nat} {scripts : List (String × Script)}
  {called : List String} {name : String} {script : Script}

theorem runsLeft_cons_le :
    runsLeft runs scripts (name :: called) ≤ runsLeft runs scripts called := by
  induction scripts with
  | nil => exact Nat.le_refl _
  | cons s scripts ih =>
      have hcount : called.count s.1 ≤ (name :: called).count s.1 := List.count_le_count_cons
      simp only [runsLeft, List.map_cons, List.sum_cons] at ih ⊢
      omega

theorem runsLeft_cons_lt (hscript : scripts.lookup name = some script)
    (hleft : called.count name < runs script) :
    runsLeft runs scripts (name :: called) < runsLeft runs scripts called := by
  induction scripts with
  | nil => cases hscript
  | cons s scripts ih =>
      obtain ⟨other, script'⟩ := s
      simp only [runsLeft, List.map_cons, List.sum_cons] at ih ⊢
      by_cases hname : name = other
      · subst hname
        obtain rfl : script' = script := by simpa using hscript
        have hrest : runsLeft runs scripts (name :: called) ≤ runsLeft runs scripts called :=
          runsLeft_cons_le
        simp only [runsLeft, List.count_cons_self] at hrest ⊢
        omega
      · have hother : (name == other) = false := by simpa using hname
        have hlookup : scripts.lookup name = some script := by
          simpa [List.lookup_cons, hother] using hscript
        have hcount : (name :: called).count other = called.count other :=
          List.count_cons_of_ne hname
        have hrest := ih hlookup
        omega

/-- A callback that acts uses up one of its runs. -/
theorem runsLeft_acts (standard : Script) (acts : Script → List Action)
    (hstandard : acts standard = []) :
    runsLeft runs scripts (name :: called) < runsLeft runs scripts called ∨
      (if called.count name < runs ((scripts.lookup name).getD standard) then
        acts ((scripts.lookup name).getD standard) else []) = [] := by
  split
  next hleft =>
    cases hscript : scripts.lookup name with
    | none => exact Or.inr hstandard
    | some script =>
        rw [hscript] at hleft
        exact Or.inl (runsLeft_cons_lt hscript hleft)
  next => exact Or.inr rfl

end RunsLeft

def Holdings.runsLeft (h : Holdings) : Nat :=
  Simulation.runsLeft HandlerScript.runs h.scenario.handlers h.handlerCalls +
    Simulation.runsLeft ObserverScript.runs h.scenario.observers h.observerCalls

namespace Call

def actionCount : Call → Nat
  | actions rest => rest.length
  | _ => 0

/-- Whether a call is to take a list of callbacks from the world. -/
def openCount : Call → Nat
  | deliver _ => 1
  | _ => 0

/-- A bound for the steps that a call takes by itself. -/
def weight : Call → Nat
  | handlers _ rest _ => 3 * rest.length + 1
  | observers _ rest => 4 * rest.length + 1
  | observer .. => 3
  | flush => 2
  | _ => 1

theorem weight_pos (c : Call) : 0 < c.weight := by
  cases c <;> simp [weight]

end Call

/-- The sum of some measure of calls. -/
def total (measure : Call → Nat) (calls : List Call) : Nat := (calls.map measure).sum

section Total

variable {measure : Call → Nat} {c : Call} {calls more : List Call}

@[simp] theorem total_nil : total measure [] = 0 := rfl

@[simp] theorem total_cons : total measure (c :: calls) = measure c + total measure calls :=
  List.sum_cons

@[simp] theorem total_append :
    total measure (more ++ calls) = total measure more + total measure calls := by
  simp [total]

/-- Breaking off leaves no more of anything than there was. -/
theorem total_caught_le (hmeasure : ∀ e rest o o', measure (.handlers e rest o) =
    measure (.handlers e rest o')) : total measure (caught calls) ≤ total measure calls := by
  induction calls with
  | nil => exact Nat.le_refl _
  | cons c calls ih =>
      cases c with
      | handlers e rest o =>
          rw [caught, total_cons, total_cons, hmeasure e rest _ o]
      | observers next rest => exact Nat.le_refl _
      | _ => exact Nat.le_trans ih (by simp)

end Total

/-- What a thread has still to do: how often callbacks may act, what they are about to do, the lists
that are to be taken, and the steps to be made with what is there. -/
def World.rank (w : World) (calls : List Call) : ℕ ×ₗ ℕ ×ₗ ℕ ×ₗ ℕ :=
  toLex (w.holdings.runsLeft, toLex (total Call.actionCount calls,
    toLex (total Call.openCount calls + w.lifecycle.pending.length, total Call.weight calls)))

namespace World

variable {w w' : World} {c : Call} {calls calls' below more : List Call}

/-- What a thread has still to do is compared part by part; a part counts only as long as those
before it have not become less. -/
theorem rank_lt (hruns : w'.holdings.runsLeft ≤ w.holdings.runsLeft)
    (hactions : w'.holdings.runsLeft < w.holdings.runsLeft ∨
      total Call.actionCount calls' ≤ total Call.actionCount calls)
    (hopen : w'.holdings.runsLeft < w.holdings.runsLeft ∨
      total Call.actionCount calls' < total Call.actionCount calls ∨
      total Call.openCount calls' + w'.lifecycle.pending.length ≤
        total Call.openCount calls + w.lifecycle.pending.length)
    (hweight : w'.holdings.runsLeft < w.holdings.runsLeft ∨
      total Call.actionCount calls' < total Call.actionCount calls ∨
      total Call.openCount calls' + w'.lifecycle.pending.length <
        total Call.openCount calls + w.lifecycle.pending.length ∨
      total Call.weight calls' < total Call.weight calls) :
    w'.rank calls' < w.rank calls := by
  simp only [rank, Prod.Lex.toLex_lt_toLex]
  omega

/-- A step by which the calls on top become less, and no callback acts. -/
theorem rank_lt_of_weight (hholdings : w'.holdings = w.holdings)
    (hpending : w'.lifecycle.pending = w.lifecycle.pending)
    (hactions : total Call.actionCount calls' ≤ total Call.actionCount calls)
    (hopen : total Call.openCount calls' ≤ total Call.openCount calls)
    (hweight : total Call.weight calls' < total Call.weight calls) :
    w'.rank calls' < w.rank calls := by
  refine rank_lt (Nat.le_of_eq ?_) (Or.inr hactions) (Or.inr (Or.inr ?_))
    (Or.inr (Or.inr (Or.inr hweight)))
  · rw [hholdings]
  · rw [hpending]
    omega

theorem rank_pop (hholdings : w'.holdings = w.holdings)
    (hpending : w'.lifecycle.pending = w.lifecycle.pending) :
    w'.rank below < w.rank (c :: below) := by
  have hpos := c.weight_pos
  exact rank_lt_of_weight hholdings hpending (by simp) (by simp) (by simp; omega)

theorem perform_rank (w : World) (a : Action) (rest : List Action) :
    (w.perform a).1.rank ((w.perform a).2.2 ++ .yielded a :: .actions rest :: below) <
      w.rank (.actions (a :: rest) :: below) := by
  have hruns : (w.perform a).1.holdings.runsLeft = w.holdings.runsLeft := by
    rw [w.perform_holdings a]
    rfl
  -- what an action leads to is no list of actions
  have hmore : total Call.actionCount (w.perform a).2.2 = 0 := by
    rcases w.perform_leads a with hmore | hmore | ⟨e, hmore⟩ | ⟨o, next, hmore⟩ <;>
      simp [hmore, Call.actionCount]
  have hactions : total Call.actionCount
        ((w.perform a).2.2 ++ .yielded a :: .actions rest :: below) <
      total Call.actionCount (.actions (a :: rest) :: below) := by
    simp [hmore, Call.actionCount]
  exact rank_lt (Nat.le_of_eq hruns) (Or.inr (Nat.le_of_lt hactions))
    (Or.inr (Or.inl hactions)) (Or.inr (Or.inl hactions))

/-- A scripted handler that acts uses up one of its runs. -/
theorem callHandler_scripted (w : World) (e : Event) (name : String) :
    ∃ actions ending,
      (w.callHandler e (.scripted name)).2 = [.actions actions, .handled e ending] ∧
        (w.callHandler e (.scripted name)).1.holdings.runsLeft ≤ w.holdings.runsLeft ∧
        ((w.callHandler e (.scripted name)).1.holdings.runsLeft < w.holdings.runsLeft ∨
          actions = []) := by
  have hacts : runsLeft HandlerScript.runs w.scenario.handlers (name :: w.handlerCalls) <
        runsLeft HandlerScript.runs w.scenario.handlers w.handlerCalls ∨
      (if w.handlerCalls.count name < (w.scenario.handler name).runs then
        (w.scenario.handler name).actions else []) = [] :=
    runsLeft_acts ({} : HandlerScript) HandlerScript.actions rfl
  refine ⟨_, _, rfl, Nat.add_le_add_right runsLeft_cons_le _, ?_⟩
  exact hacts.imp_left fun hlt => Nat.add_lt_add_right hlt _

theorem callHandler_rank (w : World) (e : Event) (h : HandlerId) (rest : List HandlerId)
    (o o' : DispatchOutcome) :
    (w.callHandler e h).1.rank ((w.callHandler e h).2 ++ .handlers e rest o' :: below) <
      w.rank (.handlers e (h :: rest) o :: below) := by
  have hpending : (w.callHandler e h).1.lifecycle.pending = w.lifecycle.pending :=
    congrArg Lifecycle.pending (w.callHandler_same e h).1.lifecycle
  cases h with
  | eventLogger =>
      refine rank_lt_of_weight (w.report_holdings _) hpending ?_ ?_ ?_
      · simp [callHandler, Call.actionCount]
      · simp [callHandler, Call.openCount]
      · simp [callHandler, Call.weight]
  | scripted name =>
      obtain ⟨actions, ending, hcalls, hruns, hacts⟩ := w.callHandler_scripted e name
      rw [hcalls]
      refine rank_lt hruns (hacts.imp_right ?_) (Or.inr (Or.inr ?_))
        (Or.inr (Or.inr (Or.inr ?_)))
      · rintro rfl
        simp [Call.actionCount]
      · rw [hpending]
        simp [Call.openCount]
      · simp [Call.weight]
        omega

/-- An observer that takes no note does not act, and a scripted one that acts uses up one of its
runs. -/
theorem callObserver_acts (w : World) (next : ConnectionState) (o : ObserverId) :
    ((w.callObserver next o).1.holdings = w.holdings ∧ (w.callObserver next o).2 = []) ∨
      ∃ actions breaks, (w.callObserver next o).2 = [.actions actions, .observed breaks] ∧
        (w.callObserver next o).1.holdings.runsLeft ≤ w.holdings.runsLeft ∧
        ((w.callObserver next o).1.holdings.runsLeft < w.holdings.runsLeft ∨ actions = []) := by
  cases o with
  | notifier =>
      simp only [callObserver]
      split
      · exact Or.inl ⟨report_holdings _ _, rfl⟩
      · exact Or.inl ⟨rfl, rfl⟩
  | scripted name =>
      have hacts : runsLeft ObserverScript.runs w.scenario.observers (name :: w.observerCalls) <
            runsLeft ObserverScript.runs w.scenario.observers w.observerCalls ∨
          (if w.observerCalls.count name < (w.scenario.observer name).runs then
            (w.scenario.observer name).actions else []) = [] :=
        runsLeft_acts ({} : ObserverScript) ObserverScript.actions rfl
      simp only [callObserver]
      split
      · refine Or.inr ⟨_, _, rfl, Nat.add_le_add_left runsLeft_cons_le _, ?_⟩
        exact hacts.imp_left fun hlt => Nat.add_lt_add_left hlt _
      · exact Or.inl ⟨rfl, rfl⟩

theorem callObserver_rank (w : World) (next : ConnectionState) (o : ObserverId) :
    (w.callObserver next o).1.rank ((w.callObserver next o).2 ++ below) <
      w.rank (.observer o next :: below) := by
  have hpending : (w.callObserver next o).1.lifecycle.pending = w.lifecycle.pending :=
    congrArg Lifecycle.pending (w.callObserver_same next o).1.lifecycle
  rcases w.callObserver_acts next o with
    ⟨hkept, hcalls⟩ | ⟨actions, breaks, hcalls, hruns, hacts⟩
  · rw [hcalls]
    exact rank_pop hkept hpending
  · rw [hcalls]
    refine rank_lt hruns (hacts.imp_right ?_) (Or.inr (Or.inr ?_)) (Or.inr (Or.inr (Or.inr ?_)))
    · rintro rfl
      simp [Call.actionCount]
    · rw [hpending]
      simp [Call.openCount]
    · simp [Call.weight]
      omega

theorem unwind_lifecycle (w : World) (calls : List Call) :
    (w.unwind calls).1.lifecycle = w.lifecycle := by
  induction calls generalizing w with
  | nil => rfl
  | cons c calls ih =>
      cases c with
      | handlers e rest o => exact (w.report_same _).lifecycle
      | observers next rest => exact (w.report_same _).lifecycle
      | session epoch => exact ih (w.removeTask epoch)
      | _ => exact ih w

theorem unwind_rank (w : World) (c : Call) (below : List Call) :
    (w.unwind below).1.rank (w.unwind below).2 < w.rank (c :: below) := by
  have hpos := c.weight_pos
  have hle := @total_caught_le Call.weight below fun _ _ _ _ => rfl
  have hactions := @total_caught_le Call.actionCount below fun _ _ _ _ => rfl
  have hopen := @total_caught_le Call.openCount below fun _ _ _ _ => rfl
  rw [w.unwind_calls]
  refine rank_lt_of_weight (World.holdings_overlooks.unwind w below)
    (congrArg Lifecycle.pending (w.unwind_lifecycle below)) ?_ ?_ ?_ <;>
  rw [total_cons] <;> omega

theorem failHandler_rank (w : World) (c : Call) (event : Event) (message : String)
    (below : List Call) :
    (w.failHandler event message below).1.rank (w.failHandler event message below).2 <
      w.rank (c :: below) := by
  unfold failHandler
  split
  next e rest o calls =>
    have hpos := c.weight_pos
    refine rank_lt_of_weight (w.report_holdings _)
      (congrArg Lifecycle.pending (w.report_same _).lifecycle) ?_ ?_ ?_
    · simp [Call.actionCount]
    · simp [Call.openCount]
    · simp only [total_cons]
      change Call.weight (.handlers e rest o) + _ < _
      omega
  next => exact rank_pop rfl rfl

/-- Every step of a thread that is in a callback leaves less to do. -/
theorem step_rank (w : World) (hc : c.role ≠ .session) (below : List Call) (value : Value) :
    (w.step ⟨c :: below, value⟩).1.rank (w.step ⟨c :: below, value⟩).2.calls <
      w.rank (c :: below) := by
  have hreport : ∀ r, (w.report r).lifecycle.pending = w.lifecycle.pending :=
    fun r => congrArg Lifecycle.pending (w.report_same r).lifecycle
  cases c with
  | actions list =>
      cases list with
      | nil => exact rank_pop rfl rfl
      | cons a rest => exact w.perform_rank a rest
  | yielded a =>
      simp only [step]
      split <;> exact rank_pop rfl rfl
  | deliver e =>
      simp only [step]
      split
      · exact rank_pop (w.report_holdings _) (hreport _)
      · refine rank_lt (Nat.le_refl _) (Or.inr ?_) (Or.inr (Or.inr ?_))
          (Or.inr (Or.inr (Or.inl ?_))) <;>
        simp [Call.actionCount, Call.openCount]
  | handlers e list o =>
      cases list with
      | nil => exact rank_pop (w.report_holdings _) (hreport _)
      | cons h rest => exact w.callHandler_rank e h rest o _
  | handled e ending =>
      cases ending with
      | ok => exact rank_pop rfl rfl
      | failed message => exact w.failHandler_rank _ e message below
      | broken => exact w.unwind_rank _ below
  | flush =>
      simp only [step, Lifecycle.enterDrain?]
      cases w.lifecycle.draining with
      | true => exact rank_pop rfl rfl
      | false =>
          refine rank_lt_of_weight rfl rfl ?_ ?_ ?_ <;>
          simp [Call.actionCount, Call.openCount, Call.weight]
  | drain =>
      cases hpending : w.lifecycle.pending with
      | nil =>
          simp only [step, Lifecycle.takeTransition, hpending]
          exact rank_pop rfl hpending.symm
      | cons t rest =>
          simp only [step, Lifecycle.takeTransition, hpending]
          have hkept := report_holdings { w with lifecycle := { w.lifecycle with pending := rest } }
            (Report.transition t.previous t.next)
          have hlifecycle := (report_same
            { w with lifecycle := { w.lifecycle with pending := rest } }
            (Report.transition t.previous t.next)).lifecycle
          refine rank_lt (Nat.le_of_eq (by rw [hkept]; rfl)) (Or.inr ?_) (Or.inr (Or.inr ?_))
            (Or.inr (Or.inr (Or.inl ?_))) <;>
          simp [Call.actionCount, Call.openCount, hlifecycle, hpending]
  | observers next list =>
      cases list with
      | nil => exact rank_pop rfl rfl
      | cons o rest =>
          refine rank_lt_of_weight rfl rfl ?_ ?_ ?_
          · simp [step, Call.actionCount]
          · simp [step, Call.openCount]
          · simp [step, Call.weight]
            omega
  | observer o next => exact w.callObserver_rank next o
  | observed breaks =>
      cases breaks with
      | false => exact rank_pop rfl rfl
      | true => exact w.unwind_rank _ below
  | session epoch => exact absurd rfl hc

end World

/-- A delivery that is under way is no session, so that every step leaves its thread less to do. -/
theorem Delivering.rank_lt {e : Event} {list invoked : List HandlerId} {calls : List Call}
    {ended : List Ending} {t : Thread} (h : Delivering e list calls invoked ended t.calls)
    (w : World) : (w.step t).1.rank (w.step t).2.calls < w.rank t.calls := by
  obtain ⟨stack, value⟩ := t
  cases h with
  | between => exact w.step_rank (by simp [Call.role]) _ value
  | @within above _ _ _ _ habove =>
      cases above with
      | nil => exact w.step_rank (by simp [Call.role]) _ value
      | cons c above => exact w.step_rank (habove c List.mem_cons_self) _ value

end EventFeed.Simulation
