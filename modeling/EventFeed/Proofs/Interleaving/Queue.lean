import EventFeed.Proofs.Interleaving.Moves

/-! # The queue of changes

What a step does with the queue: it queues a change, which gives its thread the duty to tell
changes, or it takes up such a duty or fulfils a part of it, or it leaves the queue and all duties
alone.
-/

namespace EventFeed.Simulation

/-- Whether a call has to do with the queue. -/
def Call.isDuty (c : Call) : Bool :=
  match c.role with
  | .flush | .drain | .telling => true
  | .plain | .session => false

/-- The calls that have to do with the queue, the top one first. -/
def duties (calls : List Call) : List Call := calls.filter Call.isDuty

@[simp] theorem duties_append (calls below : List Call) :
    duties (calls ++ below) = duties calls ++ duties below := List.filter_append ..

theorem isDuty_of_plain {c : Call} (h : c.role = .plain) : c.isDuty = false := by
  simp [Call.isDuty, h]

theorem duties_plain {calls : List Call} (h : ∀ c ∈ calls, c.role = .plain) :
    duties calls = [] :=
  List.filter_eq_nil_iff.mpr fun c hc => by simp [isDuty_of_plain (h c hc)]

section

variable (calls : List Call) (next : ConnectionState) (o : ObserverId) (rest : List ObserverId)

@[simp] theorem duties_flush : duties (.flush :: calls) = .flush :: duties calls := rfl

@[simp] theorem duties_drain : duties (.drain :: calls) = .drain :: duties calls := rfl

@[simp] theorem duties_observers :
    duties (.observers next rest :: calls) = .observers next rest :: duties calls := rfl

@[simp] theorem duties_observer : duties (.observer o next :: calls) = duties calls := rfl

end

/-- The kinds of steps, according to what they do with the queue. -/
inductive World.Serves (w : World) : List Call → World → List Call → Prop
  /-- The queue is left alone. -/
  | apart {w' : World} {calls calls' : List Call} : w'.lifecycle.state = w.lifecycle.state →
      w'.lifecycle.pending = w.lifecycle.pending → w'.lifecycle.draining = w.lifecycle.draining →
      (∀ c ∈ calls.head?, c.isDuty = false) → duties calls' = duties calls →
      Serves w calls w' calls'
  /-- The state is set, which is to be told. -/
  | set {w' : World} {calls calls' : List Call} :
      w'.lifecycle.pending =
        w.lifecycle.pending ++ w.lifecycle.state.changeTo w'.lifecycle.state →
      w'.lifecycle.draining = w.lifecycle.draining → (∀ c ∈ calls.head?, c.isDuty = false) →
      duties calls' = .flush :: duties calls → Serves w calls w' calls'
  | busy {calls : List Call} : w.lifecycle.draining = true → Serves w (.flush :: calls) w calls
  | enter {calls : List Call} : w.lifecycle.draining = false →
      Serves w (.flush :: calls) { w with lifecycle := { w.lifecycle with draining := true } }
        (.drain :: calls)
  | take {w' : World} {t : Transition} {rest : List Transition} {calls : List Call} :
      w.lifecycle.pending = t :: rest → w'.lifecycle = { w.lifecycle with pending := rest } →
      Serves w (.drain :: calls) w' (.observers t.next w.lifecycle.observers :: .drain :: calls)
  | depart {calls : List Call} : w.lifecycle.pending = [] →
      Serves w (.drain :: calls) { w with lifecycle := { w.lifecycle with draining := false } }
        calls
  | tell {next : ConnectionState} {o : ObserverId} {rest : List ObserverId} {calls : List Call} :
      Serves w (.observers next (o :: rest) :: calls) w
        (.observer o next :: .observers next rest :: calls)
  | ceased {next : ConnectionState} {calls : List Call} :
      Serves w (.observers next [] :: calls) w calls

namespace World

variable {w w' : World} {calls calls' : List Call}

theorem Serves.same (h : w.lifecycle = w'.lifecycle)
    (hcalls : ∀ c ∈ calls.head?, c.isDuty = false) (hduties : duties calls' = duties calls) :
    w.Serves calls w' calls' := .apart (by rw [h]) (by rw [h]) (by rw [h]) hcalls hduties

theorem advance?_queues {l l' : Lifecycle ObserverId} {epoch : UInt64} {next : ConnectionState}
    {attempts : Option UInt32} (h : l.advance? epoch next attempts = some l') :
    l'.pending = l.pending ++ l.state.changeTo l'.state ∧ l'.draining = l.draining := by
  obtain ⟨_, rfl⟩ := Lifecycle.advance?_eq_some.mp h
  simp

theorem acts_serves {a : Activity} {epoch : UInt64} {l : Lifecycle ObserverId}
    {progress : Progress} {below : List Call} (h : a.Acts epoch w.lifecycle l progress)
    (hl : w'.lifecycle = l) :
    w.Serves (.session epoch :: below) w' (progress.calls epoch below) := by
  have hhead : ∀ c ∈ (Call.session epoch :: below).head?, c.isDuty = false := by
    intro c hc
    obtain rfl := Option.some.inj hc
    rfl
  cases h with
  | goOn _ hleads => exact .same hl.symm hhead (by simp [Progress.calls, duties_plain hleads.plain])
  | wait => exact .same hl.symm hhead rfl
  | change _ _ hadvance =>
      subst hl
      obtain ⟨hpending, hdraining⟩ := advance?_queues hadvance
      exact .set hpending hdraining hhead rfl
  | leave => exact .same hl.symm hhead rfl
  | finish => exact .same hl.symm hhead rfl

theorem Does.serves (h : w.Does calls w' calls') : w.Serves calls w' calls' := by
  have hplain : ∀ {c : Call} {calls : List Call}, c.isDuty = false →
      ∀ d ∈ (c :: calls).head?, d.isDuty = false := by
    intro c calls hc d hd
    obtain rfl := Option.some.inj hd
    exact hc
  cases h with
  | nothing => exact .same rfl (by simp) rfl
  | @plain _ popped more calls hsame hne hpopped hmore =>
      -- plain calls are no duties, neither those that go nor those that come
      refine .same hsame.lifecycle.symm ?_ (by simp [duties_plain hpopped, duties_plain hmore])
      cases popped with
      | nil => exact absurd rfl hne
      | cons c popped => exact hplain (isDuty_of_plain (hpopped c List.mem_cons_self))
  | connect hl hsame =>
      obtain ⟨_, rfl⟩ := Lifecycle.connect?_eq_some.mp hl
      refine .set ?_ ?_ (hplain rfl) rfl
      · simp [hsame.lifecycle, Lifecycle.beginEpoch]
      · simp [hsame.lifecycle, Lifecycle.beginEpoch]
  | disconnect hsame =>
      refine .set ?_ ?_ (hplain rfl) rfl
      · simp [hsame.lifecycle, Lifecycle.disconnect, Lifecycle.beginEpoch]
      · simp [hsame.lifecycle, Lifecycle.disconnect, Lifecycle.beginEpoch]
  | observe hl =>
      obtain ⟨_, rfl⟩ := Lifecycle.addObserver?_eq_some.mp hl
      exact .apart rfl rfl rfl (hplain rfl) rfl
  | unobserve => exact .apart rfl rfl rfl (hplain rfl) rfl
  | busy hdraining => exact .busy hdraining
  | enter hdraining => exact .enter hdraining
  | take hpending hsame => exact .take hpending hsame.lifecycle
  | depart hpending => exact .depart hpending
  | tell => exact .tell
  | ceased => exact .ceased
  | absent => exact .same rfl (hplain rfl) rfl
  | session htask hstep _ hsame => exact acts_serves (session_effect htask hstep hsame).2 rfl
  | finish htask hstep => exact acts_serves (steps_of_task? htask hstep).2 rfl
  | @broken c popped epoch _ _ hpopped =>
      refine .same rfl (hplain (isDuty_of_plain (hpopped c List.mem_cons_self))) ?_
      rw [duties_append, duties_plain hpopped]
      rfl

end World

/-- A call that has nothing to do with the queue takes nothing off it, and tells nothing. -/
theorem taken_of_not_duty {c? : Option Call} {l : Lifecycle ObserverId}
    (h : ∀ c ∈ c?, c.isDuty = false) : Call.taken l c? = [] := by
  unfold Call.taken
  split
  · cases h _ rfl
  · rfl

theorem told_of_not_duty {c? : Option Call} {o : ObserverId} (h : ∀ c ∈ c?, c.isDuty = false) :
    Call.told o c? = [] := by
  unfold Call.told
  split
  · cases h _ rfl
  · rfl

namespace Pool

def dutiesOf (threads : List Thread) : List Call := threads.flatMap fun t => duties t.calls

theorem dutiesOf_eq (threads : List Thread) :
    dutiesOf threads = duties (threads.flatMap Thread.calls) := List.filter_flatMap.symm

/-- A move is, for the queue, a step of one thread between others. -/
inductive Turns (p : Pool) (m : Move) (p' : Pool) : Prop
  | intro {before after : List Thread} {calls calls' : List Call} :
      p.call? m = calls.head? → (∀ t ∈ before ++ after, Shape t.calls) → Shape calls →
      dutiesOf p.threads = dutiesOf before ++ duties calls ++ dutiesOf after →
      dutiesOf p'.threads = dutiesOf before ++ duties calls' ++ dutiesOf after →
      p.world.Serves calls p'.world calls' → Turns p m p'

variable {p p' : Pool} {m : Move}

/-- A move that is no step is as good as a step of a thread with nothing to do. -/
theorem Turns.idle (hshape : p.Shaped) (hcall : p.call? m = none)
    (hlifecycle : p'.world.lifecycle = p.world.lifecycle)
    (hduties : dutiesOf p'.threads = dutiesOf p.threads) : p.Turns m p' := by
  have hnil : dutiesOf [] = [] := rfl
  have hnone : duties [] = [] := rfl
  refine @intro p m p' p.threads [] [] [] hcall ?_ trivial (by simp [hnil, hnone])
    (by simp [hnil, hnone, hduties]) (.same hlifecycle.symm (by simp) rfl)
  rw [List.append_nil]
  exact hshape

theorem Moves.turns (h : p.Moves m p') (hshape : p.Shaped) : p.Turns m p' := by
  cases h with
  | stay hcall => exact .idle hshape hcall rfl rfl
  | @join t hcall hcalls =>
      have ht : duties t.calls = [] := by
        rcases hcalls with ⟨actions, hcalls⟩ | ⟨epoch, hcalls⟩ <;> rw [hcalls] <;> rfl
      exact .idle hshape hcall rfl (by simp [dutiesOf, ht])
  | decide hcall hthreads hcalls hcalls' _ hpopped hmore =>
      refine .idle hshape hcall rfl ?_
      simp [dutiesOf, hthreads, hcalls, hcalls', duties_plain hpopped, duties_plain hmore]
  | tick hm => exact .idle hshape (hm ▸ rfl) (p.world.ring_same _).lifecycle rfl
  | @step before after t t' w' hthreads hcall hdoes =>
      refine @Turns.intro _ _ _ before after _ _ hcall ?_ (hshape t (by simp [hthreads]))
        (by simp [dutiesOf, hthreads]) (by simp [dutiesOf]) hdoes.serves
      intro u hu
      rcases List.mem_append.mp hu with hu | hu <;> exact hshape u (by simp [hthreads, hu])

/-- What a move takes off the queue, followed by what it leaves there, is what there was followed by
the change that it makes. -/
theorem Turns.queue (h : p.Turns m (p.move m)) :
    p.taken m ++ (p.move m).world.lifecycle.pending =
      p.world.lifecycle.pending ++ p.change m := by
  obtain ⟨hcall, _, _, _, _, hserves⟩ := h
  rw [taken, change, hcall]
  -- the case split needs the world after the move to be a variable
  generalize (p.move m).world = w' at hserves ⊢
  cases hserves with
  | apart hstate hpending _ hhead _ =>
      rw [taken_of_not_duty hhead, hstate, hpending, ConnectionState.changeTo_self]
      simp
  | set hpending _ hhead _ =>
      rw [taken_of_not_duty hhead, hpending]
      rfl
  | take hpending hl => simp [Call.taken, hl, hpending]
  | depart hpending => simp [Call.taken, hpending]
  | _ => simp [Call.taken]

/-- The changes of a run are those that have been taken off the queue and those that are on it, in
this order. -/
theorem run_queue (hshape : p.Shaped) (moves : List Move) :
    p.trace taken moves ++ (p.run moves).world.lifecycle.pending =
      p.world.lifecycle.pending ++ p.trace change moves := by
  induction moves using List.reverseRecOn with
  | nil => simp
  | append_singleton moves m ih =>
      -- the last move takes from the front of the queue and adds at its back
      have hshaped := run_shaped moves hshape
      have hmove := (((p.run moves).move_moves m hshaped).turns hshaped).queue
      rw [run_concat, trace_concat, trace_concat, List.append_assoc, hmove, ← List.append_assoc, ih,
        List.append_assoc]

end Pool

end EventFeed.Simulation
