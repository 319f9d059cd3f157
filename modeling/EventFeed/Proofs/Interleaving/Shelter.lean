import EventFeed.Proofs.Interleaving.Moves

/-! # Where failures end

A handler or an observer that breaks off is called by a delivery or by a drainer, and either takes
note of the failure. What a session calls by itself is only the attempt to open a connection. As
long as no attempt calls an observer directly, no failure reaches a session.
-/

namespace EventFeed.Simulation

/-- An observer is called directly, and nothing takes note of its failure. -/
def Action.isNotify : Action → Bool
  | .notify .. => true
  | _ => false

/-- An attempt to open a connection comes to an end by itself. -/
def OpenScript.Returns (script : OpenScript) : Prop := ∀ a ∈ script.actions, a.isNotify = false

/-- Whether a call may break off, or may call something that does without taking note of it. -/
def Call.isRisky : Call → Bool
  | .actions list => list.any Action.isNotify
  | c => c.mayBreak

/-- No failure can reach a session. -/
def Secure : List Call → Prop
  | [] => True
  | c :: calls => (c.isRisky = true → sheltered calls = true) ∧ Secure calls

namespace Secure

variable {c : Call} {calls more : List Call}

theorem cons_of_not (h : Secure calls) (hc : c.isRisky = false) : Secure (c :: calls) :=
  ⟨fun hrisky => absurd hrisky (by simp [hc]), h⟩

theorem append (h : Secure calls) (hmore : ∀ c ∈ more, c.isRisky = false) :
    Secure (more ++ calls) := by
  induction more with
  | nil => exact h
  | cons c more ih =>
      rw [List.forall_mem_cons] at hmore
      exact (ih hmore.2).cons_of_not hmore.1

/-- What breaks off is sheltered. -/
theorem sheltered_of_mayBreak (h : Secure (c :: calls)) (hc : c.mayBreak = true) :
    sheltered calls = true := by
  refine h.1 ?_
  cases c <;> first | exact hc | cases hc

end Secure

namespace World

variable {w : World} {calls : List Call}

theorem unwind_secure (w : World) (h : Secure calls) : Secure (w.unwind calls).2 := by
  induction calls generalizing w with
  | nil => exact h
  | cons c calls ih =>
      cases c with
      | handlers e rest o => exact h.2.cons_of_not rfl
      | observers next rest => exact h
      | session epoch => exact ih (w.removeTask epoch) h.2
      | _ => exact ih w h.2

/-- The calls to which an action leads are risky only if the action is. -/
theorem perform_calls (w : World) (a : Action) :
    (∀ c ∈ (w.perform a).2.2, c.isRisky = false) ∨
      a.isNotify = true ∧ ∃ o state, (w.perform a).2.2 = [.observer o state] := by
  cases a with
  | connect =>
      refine Or.inl ?_
      simp only [perform, connect]
      split <;> simp [Call.isRisky, Call.mayBreak]
  | disconnect => exact Or.inl (by simp [perform, disconnect, Call.isRisky, Call.mayBreak])
  | subscribe name h => exact Or.inl (by simp only [perform]; split <;> simp)
  | unsubscribe name h => exact Or.inl (by simp only [perform]; split <;> simp)
  | count name => exact Or.inl (by simp only [perform]; split <;> simp)
  | dispatch raw =>
      exact Or.inl (by simp only [perform]; split <;> simp [Call.isRisky, Call.mayBreak])
  | notify o state =>
      cases state with
      | ok state => exact Or.inr ⟨rfl, o, state, rfl⟩
      | error e => exact Or.inl (by simp [perform])
  | _ => exact Or.inl (by simp [perform])

theorem perform_secure (w : World) (a : Action) (rest : List Action)
    (h : Secure (.actions (a :: rest) :: calls)) :
    Secure ((w.perform a).2.2 ++ .yielded a :: .actions rest :: calls) := by
  -- one action less is no more risky
  have hrest : Secure (.yielded a :: .actions rest :: calls) := by
    refine Secure.cons_of_not ⟨fun hrisky => h.1 ?_, h.2⟩ rfl
    simp only [Call.isRisky, List.any_cons] at hrisky ⊢
    rw [hrisky, Bool.or_true]
  rcases w.perform_calls a with hcalls | ⟨hnotify, o, state, hcalls⟩
  · exact hrest.append hcalls
  · rw [hcalls]
    refine ⟨fun _ => ?_, hrest⟩
    exact h.1 (by simp [Call.isRisky, hnotify])

theorem callHandler_secure (w : World) (e : Event) (h : HandlerId) (rest : List HandlerId)
    (o : DispatchOutcome) (hcalls : Secure calls) :
    Secure ((w.callHandler e h).2 ++ .handlers e rest o :: calls) := by
  have hbelow : Secure (.handlers e rest o :: calls) := hcalls.cons_of_not rfl
  cases h with
  | eventLogger => exact hbelow
  | scripted name => exact ⟨fun _ => rfl, fun _ => rfl, hbelow⟩

theorem callObserver_secure (w : World) (next : ConnectionState) (o : ObserverId)
    (h : Secure (.observer o next :: calls)) : Secure ((w.callObserver next o).2 ++ calls) := by
  -- an observer is risky, so what lies below it gives shelter already
  have hsheltered : sheltered calls = true := h.1 rfl
  cases o with
  | notifier =>
      simp only [callObserver]
      split <;> exact h.2
  | scripted name =>
      simp only [callObserver]
      split
      · exact ⟨fun _ => hsheltered, fun _ => hsheltered, h.2⟩
      · exact h.2

theorem failHandler_secure (w : World) (e : Event) (message : String) (h : Secure calls) :
    Secure (w.failHandler e message calls).2 := by
  unfold failHandler
  split
  · exact h.2.cons_of_not rfl
  · exact h

/-- What a session calls is not risky. -/
theorem acts_secure {a : Activity} {epoch : UInt64} {l l' : Lifecycle ObserverId}
    {progress : Progress} (h : a.Acts epoch l l' progress)
    (hscript : ∀ script ∈ a.script?, script.Returns) (hcalls : Secure calls) :
    Secure (progress.calls epoch calls) := by
  have hsession : Secure (.session epoch :: calls) := hcalls.cons_of_not rfl
  cases h with
  | goOn _ hleads =>
      rcases hleads with rfl | ⟨event, rfl⟩ | ⟨script, hs, rfl⟩
      · exact hsession
      · exact hsession.cons_of_not rfl
      · exact hsession.cons_of_not (by
          simpa [Call.isRisky, OpenScript.Returns] using hscript script hs)
  | wait => exact hcalls
  | change => exact hsession.cons_of_not rfl
  | leave => exact hsession
  | finish => exact hcalls

theorem runSession_secure (w : World) (epoch : UInt64) (value : Value) (hcalls : Secure calls)
    (hscripts : ∀ t ∈ w.tasks, ∀ script ∈ t.activity.script?, script.Returns) :
    Secure (w.runSession epoch value calls).2 := by
  unfold runSession
  split
  next => exact hcalls
  next task htask =>
    have hscript := hscripts task (List.mem_of_find?_eq_some htask)
    have hacts := fun r => (@steps_of_task? w epoch task value r htask)
    split
    next hstep => exact acts_secure (hacts _ hstep).2 hscript hcalls
    next hstep => exact acts_secure (hacts _ hstep).2 hscript hcalls
    next hstep => exact acts_secure (hacts _ hstep).2 hscript hcalls

/-- A step keeps failures away from sessions. -/
theorem step_secure (w : World) (t : Thread) (h : Secure t.calls)
    (hscripts : ∀ t ∈ w.tasks, ∀ script ∈ t.activity.script?, script.Returns) :
    Secure (w.step t).2.calls := by
  obtain ⟨calls, value⟩ := t
  cases calls with
  | nil => exact trivial
  | cons c calls =>
    have hcalls : Secure calls := h.2
    cases c with
    | actions list =>
        cases list with
        | nil => exact hcalls
        | cons a rest => exact w.perform_secure a rest h
    | yielded a => exact hcalls
    | deliver e =>
        simp only [step]
        split
        · exact hcalls
        · exact hcalls.cons_of_not rfl
    | handlers e list o =>
        cases list with
        | nil => exact hcalls
        | cons handler rest => exact w.callHandler_secure e handler rest _ hcalls
    | handled e ending =>
        cases ending with
        | ok => exact hcalls
        | failed message => exact w.failHandler_secure e message hcalls
        | broken => exact w.unwind_secure hcalls
    | flush =>
        simp only [step]
        split
        · exact hcalls
        · exact hcalls.cons_of_not rfl
    | drain =>
        simp only [step]
        split
        · exact hcalls
        · exact h.cons_of_not rfl
    | observers next list =>
        cases list with
        | nil => exact hcalls
        | cons o rest => exact ⟨fun _ => rfl, hcalls.cons_of_not rfl⟩
    | observer o next => exact w.callObserver_secure next o h
    | observed breaks =>
        cases breaks with
        | false => exact hcalls
        | true => exact w.unwind_secure hcalls
    | session epoch => exact w.runSession_secure epoch value hcalls hscripts

theorem nextOpen_cases (w : World) :
    w.nextOpen ∈ w.opens ∨ w.nextOpen = w.scenario.fallback := by
  unfold nextOpen
  cases w.opens with
  | nil => exact .inr rfl
  | cons script rest => exact .inl List.mem_cons_self

/-- The attempts that are under way come from the answers that are left, or are the one that stands
in for them. -/
theorem stepSession_script {s : Session} {a b : Activity} {value : Value} {script : OpenScript}
    (hb : (w.stepSession s a value).2.2.activity? = some b) (hscript : b.script? = some script) :
    a.script? = some script ∨ script ∈ w.opens ∨ script = w.scenario.fallback := by
  have hcomes := w.stepSession_comes s a value
  generalize w.stepSession s a value = r at hcomes hb
  cases hcomes with
  | call =>
      -- only an attempt that starts takes an answer; all others keep the one they have
      obtain rfl := Option.some.inj hb
      obtain rfl := Option.some.inj hscript
      exact .inr w.nextOpen_cases
  | answer | await | hang =>
      obtain rfl := Option.some.inj hb
      exact .inl hscript
  | _ => cases hb <;> cases hscript

end World

/-! ## Runs in which no attempt breaks off -/

/-- No attempt breaks off, be it under way or still to come. -/
structure World.Obliging (w : World) : Prop where
  fallback : w.scenario.fallback.Returns
  opens : ∀ script ∈ w.opens, script.Returns
  started : ∀ post ∈ w.posts, ∀ script ∈ post.2.script?, script.Returns

namespace World

variable {w w' : World} {calls calls' : List Call}

theorem Obliging.of_subset (h : w.Obliging) (hscenario : w'.scenario = w.scenario)
    (hopens : w'.opens ⊆ w.opens)
    (hposts : ∀ post ∈ w'.posts, post ∈ w.posts ∨ ∀ script ∈ post.2.script?, script.Returns) :
    w'.Obliging where
  fallback := hscenario ▸ h.fallback
  opens := fun script hscript => h.opens script (hopens hscript)
  started := fun post hpost => (hposts post hpost).elim (h.started post) id

theorem Obliging.of_posts (h : w.Obliging) (hscenario : w'.scenario = w.scenario)
    (hopens : w'.opens = w.opens) (hposts : w'.posts.Sublist w.posts) : w'.Obliging :=
  h.of_subset hscenario (hopens ▸ List.Subset.refl _) fun _ hpost => Or.inl (hposts.subset hpost)

theorem Obliging.returns {s : Session} {a b : Activity} {epoch : UInt64} {value : Value}
    (h : w.Obliging) (hpost : (epoch, a) ∈ w.posts)
    (hb : (w.stepSession s a value).2.2.activity? = some b) :
    ∀ script ∈ b.script?, script.Returns := by
  intro script hscript
  rcases stepSession_script hb hscript with hs | hs | rfl
  · exact h.started _ hpost script hs
  · exact h.opens script hs
  · exact h.fallback

theorem Does.obliging (h : w.Does calls w' calls') (hobliging : w.Obliging) : w'.Obliging := by
  cases h with
  | plain hs => exact hobliging.of_posts hs.scenario hs.opens (hs.posts ▸ List.Sublist.refl _)
  | connect hl hs =>
      refine hobliging.of_subset hs.scenario (hs.opens ▸ List.Subset.refl _) fun post hpost => ?_
      rw [hs.posts, posts, List.map_append] at hpost
      rcases List.mem_append.mp hpost with hpost | hpost
      · exact Or.inl hpost
      · rw [List.mem_singleton.mp hpost]
        exact Or.inr fun script hscript => by cases hscript
  | disconnect hs => exact hobliging.of_posts hs.scenario hs.opens (hs.posts ▸ List.Sublist.refl _)
  | take _ hs => exact hobliging.of_posts hs.scenario hs.opens (hs.posts ▸ List.Sublist.refl _)
  | session htask hstep hb hs =>
      obtain ⟨hsteps, _⟩ := steps_of_task? htask hstep
      refine hobliging.of_subset (hs.scenario.trans hsteps.scenario)
        (hs.opens ▸ hsteps.opens) fun post hpost => ?_
      rw [(session_effect htask hstep hs).1] at hpost
      obtain ⟨post', hpost', heq⟩ := List.mem_map.mp hpost
      split at heq
      next =>
        subst heq
        have hb' := congrArg (fun r => r.2.2.activity?) hstep
        exact Or.inr (hobliging.returns (mem_posts_of_task? htask) (hb'.trans hb))
      next => exact Or.inl (heq ▸ hpost')
  | finish htask hstep =>
      obtain ⟨hsteps, _⟩ := steps_of_task? htask hstep
      refine hobliging.of_subset hsteps.scenario hsteps.opens fun post hpost => Or.inl ?_
      rw [(finish_effect htask hstep).1] at hpost
      exact (List.mem_filter.mp hpost).1
  | broken => exact hobliging.of_posts rfl rfl (removeTask_posts _ _)
  | _ => exact hobliging.of_posts rfl rfl (List.Sublist.refl _)

end World

/-- What a callback makes up its mind to do fails, if at all, where the callback would. -/
theorem Thread.decide_secure (t : Thread) (actions : List Action) (ending : Ending)
    (h : Secure t.calls) : Secure (t.decide actions ending).calls := by
  unfold decide
  split
  next hcalls =>
    rw [hcalls] at h
    exact ⟨fun _ => h.2.1 rfl, fun _ => h.2.1 rfl, h.2.2⟩
  next hcalls =>
    rw [hcalls] at h
    exact ⟨fun _ => h.2.1 rfl, fun _ => h.2.1 rfl, h.2.2⟩
  next => exact h

/-- No failure can reach a session, now or later. -/
structure Pool.Sheltered (p : Pool) : Prop where
  secure : ∀ t ∈ p.threads, Secure t.calls
  obliging : p.world.Obliging

namespace Pool

variable {p : Pool}

theorem start_sheltered {scenario : Scenario} {opens : List OpenScript}
    (hreturns : ∀ script ∈ scenario.fallback :: opens, script.Returns) :
    (start scenario opens).Sheltered where
  secure := List.forall_mem_nil _
  obliging :=
    { fallback := hreturns _ List.mem_cons_self
      opens := fun script hscript => hreturns script (List.mem_cons_of_mem _ hscript)
      started := List.forall_mem_nil _ }

/-- No failure can reach the session of the thread that takes a step, if there is one. -/
theorem secure_of_mem {calls : List Call} (hsecure : ∀ t ∈ p.threads, Secure t.calls)
    (hcalls : calls ∈ [] :: p.threads.map Thread.calls) : Secure calls := by
  rcases List.mem_cons.mp hcalls with rfl | hcalls
  · exact trivial
  · obtain ⟨t, ht, rfl⟩ := List.mem_map.mp hcalls
    exact hsecure t ht

theorem move_secure (m : Move) (hsecure : ∀ t ∈ p.threads, Secure t.calls)
    (hscripts : ∀ t ∈ p.world.tasks, ∀ script ∈ t.activity.script?, script.Returns) :
    ∀ t ∈ (p.move m).threads, Secure t.calls := by
  have hjoin : ∀ {c : Call}, Secure [c] →
      ∀ t ∈ p.threads ++ [⟨[c], .none⟩], Secure t.calls := by
    intro c hc t ht
    rcases List.mem_append.mp ht with ht | ht
    · exact hsecure t ht
    · rw [List.mem_singleton.mp ht]
      exact hc
  cases m with
  | begin actions => exact hjoin ⟨fun _ => rfl, trivial⟩
  | poll epoch =>
      simp only [move]
      split
      · exact hsecure
      · exact hjoin (Secure.cons_of_not trivial rfl)
  | step i =>
      rcases p.move_step i with ⟨_, hmove⟩ | ⟨before, t, after, hthreads, _, hmove⟩
      · rw [hmove]
        exact hsecure
      · rw [hmove]
        exact forall_threads_replace hsecure hthreads fun ht =>
          p.world.step_secure t ht hscripts
  | decide i actions ending =>
      rcases p.move_decide i actions ending with hmove | ⟨before, t, after, hthreads, hmove⟩
      · rw [hmove]
        exact hsecure
      · rw [hmove]
        exact forall_threads_replace hsecure hthreads (t.decide_secure actions ending)
  | tick time => exact hsecure

theorem move_sheltered (m : Move) (hshape : p.Shaped) (h : p.Sheltered) :
    (p.move m).Sheltered := by
  refine ⟨move_secure m h.secure fun t ht =>
    h.obliging.started _ (List.mem_map_of_mem ht), ?_⟩
  rcases (p.move_moves m hshape).does with ⟨time, _, hw⟩ | ⟨calls, calls', _, _, hdoes⟩
  · rw [hw]
    have hring := p.world.ring_same time
    exact h.obliging.of_posts hring.scenario hring.opens
      (p.world.ring_posts time ▸ List.Sublist.refl _)
  · exact hdoes.obliging h.obliging

theorem run_sheltered (moves : List Move) (hshape : p.Shaped) (h : p.Sheltered) :
    (p.run moves).Sheltered :=
  run_keeps_of_move (fun _ m => move_sheltered m) moves hshape h

end Pool

end EventFeed.Simulation
