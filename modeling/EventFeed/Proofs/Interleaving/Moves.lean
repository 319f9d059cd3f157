import EventFeed.Proofs.Interleaving.Step
import Mathlib.Data.List.Induction

/-! # What a move can do

Whoever makes it, a move is a step of one thread, or concerns the threads or the clock alone. The
threads of a run keep their shape.
-/

namespace EventFeed.Simulation

/-- The kinds of moves. -/
inductive Pool.Moves (p : Pool) (m : Move) : Pool → Prop
  | stay : p.call? m = none → Moves p m p
  | join {t : Thread} : p.call? m = none →
      (∃ actions, t.calls = [.actions actions]) ∨ (∃ epoch, t.calls = [.session epoch]) →
      Moves p m ⟨p.world, p.threads ++ [t]⟩
  /-- A callback makes up its mind. -/
  | decide {before after : List Thread} {t t' : Thread} {popped more calls : List Call} :
      p.call? m = none → p.threads = before ++ t :: after → t.calls = popped ++ calls →
      t'.calls = more ++ calls → popped ≠ [] → (∀ c ∈ popped, c.role = .plain) →
      (∀ c ∈ more, c.role = .plain) → Moves p m ⟨p.world, before ++ t' :: after⟩
  | tick {time : Nat} : m = .tick time → Moves p m ⟨p.world.ring time, p.threads⟩
  | step {before after : List Thread} {t t' : Thread} {w' : World} :
      p.threads = before ++ t :: after → p.call? m = t.calls.head? →
      p.world.Does t.calls w' t'.calls → Moves p m ⟨w', before ++ t' :: after⟩

/-- The calls of every thread lie as they should. -/
def Pool.Shaped (p : Pool) : Prop := ∀ t ∈ p.threads, Shape t.calls

namespace World

variable {w w' : World} {calls calls' : List Call}

theorem epoch_of_task? {epoch : UInt64} {task : Task} (h : w.task? epoch = some task) :
    task.session.epoch = epoch := by
  simpa using List.find?_some h

theorem steps_of_task? {epoch : UInt64} {task : Task} {value : Value}
    {r : World × Session × Progress} (htask : w.task? epoch = some task)
    (hstep : w.stepSession task.session task.activity value = r) :
    w.Steps task.session task.activity r ∧
      task.activity.Acts epoch w.lifecycle r.1.lifecycle r.2.2 := by
  obtain rfl := epoch_of_task? htask
  rw [← hstep]
  have hsteps := w.stepSession_steps task.session task.activity value
  exact ⟨hsteps, hsteps.acts⟩

/-- What a session puts on top of itself is a duty to tell a change, or plain. -/
theorem shape_of_acts {a b : Activity} {epoch : UInt64} {l l' : Lifecycle ObserverId}
    {more : List Call} (h : a.Acts epoch l l' (.goOn b more)) :
    Shape (more ++ [.session epoch]) := by
  have hsession : Shape [Call.session epoch] := ⟨show Role.session.Fits none by decide, trivial⟩
  cases h with
  | goOn _ hleads =>
      rcases hleads with rfl | ⟨event, rfl⟩ | ⟨script, _, rfl⟩
      · exact hsession
      · exact ⟨by simp [Call.role, Role.Fits], hsession⟩
      · exact ⟨by simp [Call.role, Role.Fits], hsession⟩
  | change => exact ⟨by simp [Call.role, Role.Fits], hsession⟩
  | leave => exact hsession

/-- A request is noted down before its effect is told. -/
theorem shape_request {a : Action} {list rest : List Action}
    (h : Shape (.actions list :: calls)) :
    Shape (.flush :: .yielded a :: .actions rest :: calls) := by
  have hpopped : ∀ c ∈ [Call.actions list], c.role = .plain := by simp [Call.role]
  have hmore : ∀ c ∈ [Call.yielded a, .actions rest], c.role = .plain := by simp [Call.role]
  have hact : Shape (.yielded a :: .actions rest :: calls) :=
    h.exchange (List.cons_ne_nil _ []) hpopped hmore
  exact ⟨by simp [Call.role, Role.Fits], hact⟩

theorem Does.shape (h : w.Does calls w' calls') (hshape : Shape calls) : Shape calls' := by
  cases h with
  | nothing => exact hshape
  | plain _ hne hpopped hmore => exact hshape.exchange hne hpopped hmore
  | connect => exact shape_request hshape
  | disconnect => exact shape_request hshape
  | observe => exact (shape_request hshape).2
  | unobserve => exact (shape_request hshape).2
  | busy => exact hshape.2
  | enter => exact hshape.replace fun r => by simp [Call.role, Role.Fits]
  | take => exact ⟨by simp [Call.role, Role.Fits], hshape⟩
  | depart => exact hshape.2
  | tell =>
      have hrest := hshape.replace (d := .observers _ _) fun r hr => hr
      exact ⟨by simp [Call.role, Role.Fits], hrest⟩
  | ceased => exact hshape.2
  | absent => exact hshape.2
  | @session epoch task task' value w₁ _ progress below htask hstep hb =>
      -- what the session calls lies on top of it alone
      obtain rfl := hshape.eq_nil_of_session rfl
      have hacts := (steps_of_task? htask hstep).2
      cases progress with
      | goOn b more => exact shape_of_acts hacts
      | wait b alarms => exact hshape.2
      | finish => cases hb
  | finish => exact hshape.2
  | broken => simp [Shape]

/-- The clock and its alarms do not concern what sessions are at. -/
theorem ring_same (w : World) (time : Nat) :
    ({ w with
      now := max w.now time
      tasks := w.tasks.map fun t =>
        { t with alarms := t.alarms.filter fun a => max w.now time < a.due }
    } : World).SameManager (w.ring time) := by
  have hwakes : ∀ (due : List (UInt64 × Alarm)) (w : World),
      w.SameManager (due.foldl (fun w a => w.wake a.1) w) := by
    intro due
    induction due with
    | nil => exact SameManager.refl
    | cons a due ih => exact fun w => (w.wake_same a.1).trans (ih _)
  exact hwakes _ _

end World

/-! ## What the sessions are at -/

/-- What the sessions are at, each with its epoch. -/
def World.posts (w : World) : List (UInt64 × Activity) :=
  w.tasks.map fun t => (t.session.epoch, t.activity)

namespace World

variable {w w' : World}

theorem SameManager.posts (h : w.SameManager w') : w'.posts = w.posts := by
  rw [World.posts, h.tasks]
  rfl

theorem ring_posts (w : World) (time : Nat) : (w.ring time).posts = w.posts := by
  rw [(w.ring_same time).posts]
  simp [posts]

theorem setTask_posts (w : World) (task : Task) :
    (w.setTask task).posts = w.posts.map fun post =>
      if post.1 = task.session.epoch then (task.session.epoch, task.activity) else post := by
  simp only [posts, setTask, List.map_map]
  refine List.map_congr_left fun t _ => ?_
  simp only [Function.comp_apply]
  split <;> rfl

theorem removeTask_posts_eq (w : World) (epoch : UInt64) :
    (w.removeTask epoch).posts = w.posts.filter fun post => post.1 != epoch := by
  simp only [posts, removeTask, List.filter_map]
  rfl

theorem removeTask_posts (w : World) (epoch : UInt64) :
    (w.removeTask epoch).posts.Sublist w.posts := by
  rw [removeTask_posts_eq]
  exact List.filter_sublist

theorem mem_posts_of_task? {epoch : UInt64} {task : Task} (h : w.task? epoch = some task) :
    (epoch, task.activity) ∈ w.posts := by
  obtain rfl := epoch_of_task? h
  exact List.mem_map.mpr ⟨task, List.mem_of_find?_eq_some h, rfl⟩

/-- A session that goes on is at another activity, and has done what it can do. -/
theorem session_effect {epoch : UInt64} {task task' : Task} {value : Value} {w₁ : World}
    {progress : Progress} (htask : w.task? epoch = some task)
    (hstep : w.stepSession task.session task.activity value = (w₁, task'.session, progress))
    (hs : (w₁.setTask task').SameManager w') :
    (w'.posts = w.posts.map fun post =>
      if post.1 = epoch then (epoch, task'.activity) else post) ∧
      task.activity.Acts epoch w.lifecycle w'.lifecycle progress := by
  obtain ⟨hsteps, hacts⟩ := steps_of_task? htask hstep
  have hlifecycle : w'.lifecycle = w₁.lifecycle := hs.lifecycle
  have hepoch : task'.session.epoch = epoch := hsteps.epoch.trans (epoch_of_task? htask)
  refine ⟨?_, hlifecycle ▸ hacts⟩
  -- the step itself leaves all tasks in place; only the update of its own is seen
  rw [hs.posts, setTask_posts, hepoch, posts, hsteps.tasks]
  rfl

/-- A session that ends is no longer there, and has changed nothing. -/
theorem finish_effect {epoch : UInt64} {task : Task} {value : Value} {s : Session} {w₁ : World}
    (htask : w.task? epoch = some task)
    (hstep : w.stepSession task.session task.activity value = (w₁, s, .finish)) :
    (w₁.removeTask epoch).posts = w.posts.filter (fun post => post.1 != epoch) ∧
      (w₁.removeTask epoch).lifecycle = w.lifecycle := by
  obtain ⟨hsteps, hacts⟩ := steps_of_task? htask hstep
  refine ⟨?_, hacts.eq_of_finish⟩
  rw [removeTask_posts_eq, posts, hsteps.tasks]
  rfl

end World

/-! ## Moves -/

/-- A callback that makes up its mind exchanges plain calls for others, if it has a choice. -/
theorem Thread.decide_eq (t : Thread) (actions : List Action) (ending : Ending) :
    t.decide actions ending = t ∨ ∃ popped more calls, t.calls = popped ++ calls ∧
      (t.decide actions ending).calls = more ++ calls ∧ popped ≠ [] ∧
      (∀ c ∈ popped, c.role = .plain) ∧ ∀ c ∈ more, c.role = .plain := by
  have hplain : ∀ {c d : Call}, c.role = .plain → d.role = .plain →
      ∀ e ∈ [c, d], e.role = .plain := by
    intro c d hc hd
    simp [hc, hd]
  unfold decide
  split
  next list e ending' calls hcalls =>
    exact Or.inr ⟨[.actions list, .handled e ending'], [.actions actions, .handled e ending], calls,
      hcalls, rfl, List.cons_ne_nil _ _, hplain rfl rfl, hplain rfl rfl⟩
  next list breaks calls hcalls =>
    exact Or.inr ⟨[.actions list, .observed breaks],
      [.actions actions, .observed (ending == .broken)], calls,
      hcalls, rfl, List.cons_ne_nil _ _, hplain rfl rfl, hplain rfl rfl⟩
  next => exact Or.inl rfl

namespace Pool

theorem move_moves (p : Pool) (m : Move) (hshape : p.Shaped) : p.Moves m (p.move m) := by
  cases m with
  | begin actions => exact .join rfl (Or.inl ⟨actions, rfl⟩)
  | poll epoch =>
      simp only [move]
      split
      · exact .stay rfl
      · exact .join rfl (Or.inr ⟨epoch, rfl⟩)
  | step i =>
      rcases p.move_step i with ⟨hcall, hmove⟩ | ⟨before, t, after, hthreads, hcall, hmove⟩
      · rw [hmove]
        exact .stay hcall
      · rw [hmove]
        exact .step hthreads hcall (p.world.step_does t (hshape t (by simp [hthreads])))
  | decide i actions ending =>
      rcases p.move_decide i actions ending with hmove | ⟨before, t, after, hthreads, hmove⟩
      · rw [hmove]
        exact .stay rfl
      · rw [hmove]
        rcases t.decide_eq actions ending with
          hsame | ⟨popped, more, calls, hcalls, hcalls', hne, hpopped, hmore⟩
        · rw [hsame, ← hthreads]
          exact .stay rfl
        · exact .decide rfl hthreads hcalls hcalls' hne hpopped hmore
  | tick time => exact .tick rfl

theorem Moves.shaped {p p' : Pool} {m : Move} (h : p.Moves m p') (hshape : p.Shaped) :
    p'.Shaped := by
  cases h with
  | stay => exact hshape
  | join _ hcalls =>
      intro u hu
      rcases List.mem_append.mp hu with hu | hu
      · exact hshape u hu
      · obtain rfl := List.mem_singleton.mp hu
        rcases hcalls with ⟨actions, hcalls⟩ | ⟨epoch, hcalls⟩ <;>
        simp [hcalls, Shape, Call.role, Role.Fits]
  | decide _ hthreads hcalls hcalls' hne hpopped hmore =>
      refine forall_threads_replace hshape hthreads fun ht => ?_
      rw [hcalls] at ht
      rw [hcalls']
      exact ht.exchange hne hpopped hmore
  | tick => exact hshape
  | step hthreads _ hdoes => exact forall_threads_replace hshape hthreads hdoes.shape

/-- For the world, a move is a step of a thread, perhaps of one with nothing to do, or the clock
moves on. -/
theorem Moves.does {p p' : Pool} {m : Move} (h : p.Moves m p') :
    (∃ time, m = .tick time ∧ p'.world = p.world.ring time) ∨
      ∃ calls calls', p.call? m = calls.head? ∧ calls ∈ [] :: p.threads.map Thread.calls ∧
        p.world.Does calls p'.world calls' := by
  -- moves that are no step count as steps of an empty thread
  have hidle : ∀ {w' : World}, p.call? m = none → w' = p.world →
      ∃ calls calls', p.call? m = calls.head? ∧ calls ∈ [] :: p.threads.map Thread.calls ∧
        p.world.Does calls w' calls' := by
    intro w' hcall hw
    subst hw
    exact ⟨[], [], hcall, List.mem_cons_self, .nothing⟩
  cases h with
  | stay hcall => exact Or.inr (hidle hcall rfl)
  | join hcall => exact Or.inr (hidle hcall rfl)
  | decide hcall => exact Or.inr (hidle hcall rfl)
  | tick hm => exact Or.inl ⟨_, hm, rfl⟩
  | @step before after t t' w' hthreads hcall hdoes =>
      have ht : t ∈ p.threads := by simp [hthreads]
      exact Or.inr ⟨_, _, hcall, List.mem_cons_of_mem _ (List.mem_map_of_mem ht), hdoes⟩

theorem run_shaped {p : Pool} (moves : List Move) (hshape : p.Shaped) : (p.run moves).Shaped := by
  induction moves using List.reverseRecOn with
  | nil => exact hshape
  | append_singleton moves m ih =>
      rw [run_concat]
      exact ((p.run moves).move_moves m ih).shaped ih

/-- What every move of a run in shape keeps, the whole run keeps. -/
theorem run_keeps_of_move {Holds : Pool → Prop} {p : Pool}
    (hmove : ∀ q m, q.Shaped → Holds q → Holds (q.move m)) (moves : List Move)
    (hshape : p.Shaped) (h : Holds p) : Holds (p.run moves) := by
  induction moves using List.reverseRecOn with
  | nil => exact h
  | append_singleton moves m ih =>
      rw [run_concat]
      exact hmove _ m (run_shaped moves hshape) ih

theorem start_shaped (scenario : Scenario) (opens : List OpenScript) :
    (start scenario opens).Shaped := List.forall_mem_nil _

end Pool

end EventFeed.Simulation
