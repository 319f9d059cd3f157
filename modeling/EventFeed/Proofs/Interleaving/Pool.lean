import EventFeed.Simulation.Run

/-! # Interleavings

Any number of threads of control share one world and take their steps in any order. Nothing is
assumed of the order: a run is a list of moves, each of which is made by whoever comes next. A move
that cannot be made leaves everything as it is.
-/

namespace EventFeed.Simulation

structure Pool where
  world : World
  threads : List Thread := []

/-- What can happen next. -/
inductive Move where
  /-- A thread that nobody has called begins to perform actions. -/
  | begin (actions : List Action)
  /-- The task of a session is polled, unless a thread is at it. -/
  | poll (epoch : UInt64)
  | step (thread : Nat)
  /-- The callback in which a thread is makes up its mind what else to do, and how to end. -/
  | decide (thread : Nat) (actions : List Action) (ending : Ending)
  | tick (time : Nat)

def Call.isSession (epoch : UInt64) : Call → Bool
  | .session e => e == epoch
  | _ => false

/-- Whether a thread is at the task of a session. -/
def Thread.polls (t : Thread) (epoch : UInt64) : Bool := t.calls.any (Call.isSession epoch)

/-- What is left to do in a callback, and how it ends, is up to the callback. -/
def Thread.decide (t : Thread) (actions : List Action) (ending : Ending) : Thread :=
  match t.calls with
  | .actions _ :: .handled e _ :: calls =>
    { t with calls := .actions actions :: .handled e ending :: calls }
  | .actions _ :: .observed _ :: calls =>
    { t with calls := .actions actions :: .observed (ending == .broken) :: calls }
  | _ => t

namespace Pool

def start (scenario : Scenario) (opens : List OpenScript) : Pool := ⟨.start scenario opens, []⟩

def move (p : Pool) : Move → Pool
  | .begin actions => { p with threads := p.threads ++ [⟨[.actions actions], .none⟩] }
  | .poll epoch =>
    if p.threads.any (·.polls epoch) then p
    else { p with threads := p.threads ++ [⟨[.session epoch], .none⟩] }
  | .step i =>
    match p.threads[i]? with
    | some t => ⟨(p.world.step t).1, p.threads.set i (p.world.step t).2⟩
    | none => p
  | .decide i actions ending =>
    { p with threads := p.threads.modify i fun t => t.decide actions ending }
  | .tick time => { p with world := p.world.ring time }

def run (p : Pool) (moves : List Move) : Pool := moves.foldl move p

/-- The call with which a thread goes on when a move lets it. -/
def call? (p : Pool) : Move → Option Call
  | .step i => p.threads[i]?.bind fun t => t.calls.head?
  | _ => none

/-! ## What a run shows -/

/-- What is seen of a run, one move after the other. -/
def trace {α : Type} (see : Pool → Move → List α) : Pool → List Move → List α
  | _, [] => []
  | p, m :: moves => see p m ++ trace see (p.move m) moves

/-- The change of state that a move makes, if it makes one. -/
def change (p : Pool) (m : Move) : List Transition :=
  p.world.lifecycle.state.changeTo (p.move m).world.lifecycle.state

end Pool

/-- The action that is performed when a call goes on. -/
def Call.performed : Option Call → List Action
  | some (.actions (a :: _)) => [a]
  | _ => []

/-- The change that is taken off the queue of a lifecycle when a call goes on. -/
def Call.taken (l : Lifecycle ObserverId) : Option Call → List Transition
  | some .drain => l.pending.head?.toList
  | _ => []

/-- The state that an observer is told on behalf of the queue when a call goes on. -/
def Call.told (o : ObserverId) : Option Call → List ConnectionState
  | some (.observers next (other :: _)) => if other = o then [next] else []
  | _ => []

namespace Pool

def performed (p : Pool) (m : Move) : List Action := Call.performed (p.call? m)

def taken (p : Pool) (m : Move) : List Transition := Call.taken p.world.lifecycle (p.call? m)

def told (o : ObserverId) (p : Pool) (m : Move) : List ConnectionState :=
  Call.told o (p.call? m)

end Pool

/-- An explicit request to connect or to disconnect. -/
def Action.isRequest : Action → Bool
  | .connect | .disconnect => true
  | _ => false

namespace Pool

/-- The number of explicit requests in a run. -/
def requests (p : Pool) (moves : List Move) : Nat :=
  (p.trace performed moves).countP Action.isRequest

variable {α : Type} {see : Pool → Move → List α} {p : Pool} {moves later : List Move} {m : Move}

@[simp] theorem run_nil : p.run [] = p := rfl

theorem run_append : p.run (moves ++ later) = (p.run moves).run later := List.foldl_append

@[simp] theorem run_concat : p.run (moves ++ [m]) = (p.run moves).move m := run_append

@[simp] theorem trace_nil : p.trace see [] = [] := rfl

theorem trace_append :
    p.trace see (moves ++ later) = p.trace see moves ++ (p.run moves).trace see later := by
  induction moves generalizing p with
  | nil => rfl
  | cons m moves ih => rw [List.cons_append, trace, trace, ih, List.append_assoc]; rfl

@[simp] theorem trace_concat :
    p.trace see (moves ++ [m]) = p.trace see moves ++ see (p.run moves) m := by
  rw [trace_append, trace, trace_nil, List.append_nil]

/-- What is seen at some place of a run is seen at one of its moves. -/
theorem exists_of_trace {x : α} {earlier rest : List α}
    (h : p.trace see moves = earlier ++ x :: rest) :
    ∃ before m after left right, moves = before ++ m :: after ∧
      see (p.run before) m = left ++ x :: right ∧ earlier = p.trace see before ++ left ∧
      rest = right ++ (p.run (before ++ [m])).trace see after := by
  induction moves generalizing p earlier with
  | nil => simp at h
  | cons m moves ih =>
      have hlater : ∀ {earlier}, (p.move m).trace see moves = earlier ++ x :: rest →
          ∃ before m' after left right, m :: moves = before ++ m' :: after ∧
            see (p.run before) m' = left ++ x :: right ∧
            see p m ++ earlier = p.trace see before ++ left ∧
            rest = right ++ (p.run (before ++ [m'])).trace see after := by
        intro earlier htrace
        obtain ⟨before, m', after, left, right, rfl, hsee, rfl, hrest⟩ := ih htrace
        exact ⟨m :: before, m', after, left, right, rfl, hsee, (List.append_assoc ..).symm, hrest⟩
      rcases List.append_eq_append_iff.mp (h : see p m ++ _ = _) with
        ⟨between, rfl, htrace⟩ | ⟨between, hsee, htrace⟩
      · exact hlater htrace
      · cases between with
        | nil =>
            rw [List.append_nil] at hsee
            have hhere := @hlater [] htrace.symm
            rwa [List.append_nil, hsee] at hhere
        | cons y between =>
            obtain ⟨rfl, hrest⟩ := List.cons.inj htrace
            exact ⟨[], m, moves, earlier, between, rfl, hsee, rfl, hrest⟩

theorem exists_of_mem_trace {x : α} (h : x ∈ p.trace see moves) :
    ∃ before m after, moves = before ++ m :: after ∧ x ∈ see (p.run before) m := by
  obtain ⟨earlier, rest, htrace⟩ := List.append_of_mem h
  obtain ⟨before, m, after, left, right, rfl, hsee, _⟩ := exists_of_trace htrace
  refine ⟨before, m, after, rfl, ?_⟩
  rw [hsee]
  exact List.mem_append_right _ List.mem_cons_self

theorem requests_append :
    p.requests (moves ++ later) = p.requests moves + (p.run moves).requests later := by
  rw [requests, trace_append, List.countP_append]; rfl

/-- What holds of all threads goes on to hold of them when it is kept by the one that changes. -/
theorem forall_threads_replace {Holds : Thread → Prop} {threads before after : List Thread}
    {t t' : Thread} (h : ∀ u ∈ threads, Holds u) (hthreads : threads = before ++ t :: after)
    (ht : Holds t → Holds t') : ∀ u ∈ before ++ t' :: after, Holds u := by
  subst hthreads
  intro u hu
  -- the thread may stand anywhere, so the others lie on both sides of it
  rcases List.mem_append.mp hu with hu | hu
  · exact h u (by simp [hu])
  · rcases List.mem_cons.mp hu with rfl | hu
    · exact ht (h t (by simp))
    · exact h u (by simp [hu])

/-- A step of a thread changes the world and that thread, and no other thread. -/
theorem move_step (p : Pool) (i : Nat) :
    (p.call? (.step i) = none ∧ p.move (.step i) = p) ∨
      ∃ before t after, p.threads = before ++ t :: after ∧
        p.call? (.step i) = t.calls.head? ∧
        p.move (.step i) = ⟨(p.world.step t).1, before ++ (p.world.step t).2 :: after⟩ := by
  cases ht : p.threads[i]? with
  | none => exact Or.inl ⟨by simp [call?, ht], by simp [move, ht]⟩
  | some t =>
      obtain ⟨hi, rfl⟩ := List.getElem?_eq_some_iff.mp ht
      obtain ⟨before, after, hthreads, _, hset⟩ :=
        @List.exists_of_set _ i (p.world.step p.threads[i]).2 _ hi
      refine Or.inr ⟨before, p.threads[i], after, hthreads, by simp [call?, ht], ?_⟩
      simp only [move, ht, hset]

/-- A session goes on by a step of the thread that is at it. -/
theorem exists_of_session {epoch : UInt64} (hcall : p.call? m = some (.session epoch)) :
    ∃ i value below, m = .step i ∧ p.threads[i]? = some ⟨.session epoch :: below, value⟩ ∧
      p.move m = ⟨(p.world.runSession epoch value below).1,
        p.threads.set i ⟨(p.world.runSession epoch value below).2, .none⟩⟩ := by
  cases m with
  | step i =>
      cases ht : p.threads[i]? with
      | none => simp [call?, ht] at hcall
      | some t =>
          obtain ⟨calls, value⟩ := t
          simp only [call?, ht, Option.bind_some] at hcall
          obtain ⟨below, rfl⟩ := List.head?_eq_some_iff.mp hcall
          refine ⟨i, value, below, rfl, ht, ?_⟩
          simp only [move, ht]
          rfl
  | _ => cases hcall

/-- An action is performed by a step of the thread that is at it. -/
theorem world_of_performed {a : Action} (h : a ∈ p.performed m) :
    (p.move m).world = (p.world.perform a).1 := by
  cases m with
  | step i =>
      rcases p.move_step i with ⟨hcall, _⟩ | ⟨_, ⟨calls, value⟩, _, _, hcall, hmove⟩
      · simp [performed, hcall, Call.performed] at h
      · rw [performed, hcall] at h
        rw [hmove]
        match calls, h with
        | .actions (_ :: _) :: _, h =>
            obtain rfl := List.mem_singleton.mp h
            rfl
  | _ => cases h

theorem move_decide (p : Pool) (i : Nat) (actions : List Action) (ending : Ending) :
    p.move (.decide i actions ending) = p ∨
      ∃ before t after, p.threads = before ++ t :: after ∧
        p.move (.decide i actions ending) =
          ⟨p.world, before ++ t.decide actions ending :: after⟩ := by
  by_cases hi : i < p.threads.length
  · obtain ⟨before, t, after, hthreads, _, hmodify⟩ :=
      List.exists_of_modify (fun t : Thread => t.decide actions ending) hi
    exact Or.inr ⟨before, t, after, hthreads, by simp only [move, hmodify]⟩
  · refine Or.inl ?_
    simp only [move, List.modify_eq_self (Nat.le_of_not_lt hi)]

end Pool

end EventFeed.Simulation
