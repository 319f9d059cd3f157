import EventFeed.Proofs.Interleaving.Frames
import EventFeed.Proofs.Manager.Delivery
import EventFeed.Proofs.Watch.Notices

/-! # What the notifier hears

Whoever tells a change calls one observer after the other, and what the notifier does when it is
called takes one step. So it has heard what it has been told, up to the state that it is just being
told, and nothing before it is registered.
-/

namespace EventFeed.Simulation

/-- The state that a call is about to tell the notifier. -/
def Call.announces : Call → List ConnectionState
  | .observer .notifier next => [next]
  | _ => []

/-- What calls are about to tell the notifier. -/
def announced (calls : List Call) : List ConnectionState := calls.flatMap Call.announces

/-- The notifier is called by those who tell changes, and calls nothing. -/
structure Tidy (calls : List Call) : Prop where
  below : announced calls.tail = []
  telling : announced calls ≠ [] → calls.tail.head?.map Call.role = some .telling

section Announced

variable {c : Call} {calls more : List Call}

@[simp] theorem announced_append (calls more : List Call) :
    announced (calls ++ more) = announced calls ++ announced more := List.flatMap_append

@[simp] theorem announced_cons (c : Call) (calls : List Call) :
    announced (c :: calls) = c.announces ++ announced calls := List.flatMap_cons

theorem heard_append_announced (calls : List Call) :
    Call.heard calls.head? ++ announced calls.tail = announced calls := by
  cases calls with
  | nil => rfl
  | cons c calls =>
      rw [announced_cons]
      refine congrArg (· ++ announced calls) ?_
      cases c with
      | observer o next => cases o <;> rfl
      | _ => rfl

theorem Tidy.of_silent (h : announced calls = []) : Tidy calls := by
  refine ⟨?_, fun hne => absurd h hne⟩
  rw [← heard_append_announced, List.append_eq_nil_iff] at h
  exact h.2

/-- What calls are about to tell the notifier, it hears at once. -/
theorem Tidy.heard_eq (h : Tidy calls) : Call.heard calls.head? = announced calls := by
  rw [← heard_append_announced, h.below, List.append_nil]

theorem announced_caught (h : announced calls = []) : announced (caught calls) = [] := by
  induction calls with
  | nil => rfl
  | cons c calls ih =>
      rw [announced_cons, List.append_eq_nil_iff] at h
      cases c with
      | handlers e rest o => exact h.2
      | observers next rest => exact h.2
      | _ => exact ih h.2

/-- Whoever tells the notifier a state is telling a change. -/
theorem Tidy.tellings_pos (h : Tidy calls) (hne : announced calls ≠ []) :
    0 < inRole .telling calls := by
  obtain ⟨c, hc, hrole⟩ := Option.map_eq_some_iff.mp (h.telling hne)
  refine List.countP_pos_iff.mpr ⟨c, ?_, decide_eq_true hrole⟩
  exact List.mem_of_mem_tail (List.mem_of_mem_head? hc)

/-- Calls that tell no change have nothing to tell the notifier, and begin to tell it nothing. -/
theorem Tidy.silent (h : Tidy calls) (hnone : ¬ 0 < inRole .telling calls) :
    announced calls = [] ∧ Call.told .notifier calls.head? = [] := by
  refine ⟨by_contra fun hne => hnone (h.tellings_pos hne), ?_⟩
  unfold Call.told
  split
  next next o rest hhead =>
    exact absurd (List.countP_pos_iff.mpr ⟨_, List.mem_of_mem_head? hhead, rfl⟩) hnone
  next => rfl

end Announced

namespace World

variable {w : World} {t : Thread}

theorem perform_announces {a : Action} (h : ∀ state, a ≠ .notify .notifier (.ok state)) :
    announced (w.perform a).2.2 = [] := by
  cases a with
  | notify o state =>
      cases state with
      | error e => rfl
      | ok state =>
          cases o with
          | notifier => exact absurd rfl (h state)
          | scripted name => rfl
  | _ =>
      rcases w.perform_leads _ with hcalls | hcalls | ⟨e, hcalls⟩ | ⟨o, next, hcalls⟩
      · rw [hcalls]; rfl
      · rw [hcalls]; rfl
      · rw [hcalls]; rfl
      · simp only [perform, connect, disconnect] at hcalls
        grind

theorem callHandler_announces (e : Event) (h : HandlerId) :
    announced (w.callHandler e h).2 = [] := by
  cases h <;> rfl

theorem callObserver_announces (next : ConnectionState) (o : ObserverId) :
    announced (w.callObserver next o).2 = [] := by
  cases o with
  | notifier =>
      simp only [callObserver]
      split <;> rfl
  | scripted name =>
      simp only [callObserver]
      split <;> rfl

theorem runSession_announces {below : List Call} (epoch : UInt64) (value : Value)
    (h : announced below = []) : announced (w.runSession epoch value below).2 = [] := by
  have hsession : announced (.session epoch :: below) = [] := h
  unfold runSession
  split
  next => exact h
  next task htask =>
    split
    next w₁ s b calls hstep =>
      have hacts := (steps_of_task? htask hstep).2
      have hcalls : announced calls = [] := by
        generalize hl : (w₁, s, Progress.goOn b calls).1.lifecycle = l at hacts
        cases hacts with
        | goOn _ hleads => rcases hleads with rfl | ⟨event, rfl⟩ | ⟨script, _, rfl⟩ <;> rfl
        | change => rfl
        | leave => rfl
      rw [announced_append, hcalls, hsession]
      rfl
    next => exact h
    next => exact h

/-- After a step, a thread is about to tell the notifier what it has begun to tell with that step,
and nothing else. -/
theorem step_announces (htidy : Tidy t.calls)
    (hdirect : ∀ state, Call.performed t.calls.head? ≠ [.notify .notifier (.ok state)]) :
    announced (w.step t).2.calls = Call.told .notifier t.calls.head? ∧
      Tidy (w.step t).2.calls := by
  obtain ⟨calls, value⟩ := t
  have hquiet : ∀ {calls' : List Call}, announced calls' = [] →
      announced calls' = [] ∧ Tidy calls' := fun h => ⟨h, .of_silent h⟩
  cases calls with
  | nil => exact hquiet rfl
  | cons c calls =>
    have hbelow : announced calls = [] := htidy.below
    cases c with
    | actions list =>
        cases list with
        | nil => exact hquiet hbelow
        | cons a rest =>
            refine hquiet ?_
            have ha : ∀ state, a ≠ .notify .notifier (.ok state) := fun state heq =>
              hdirect state (congrArg (fun a => [a]) heq)
            simp [step, perform_announces ha, Call.announces, hbelow]
    | yielded a => exact hquiet hbelow
    | deliver e =>
        simp only [step]
        split
        · exact hquiet hbelow
        · exact hquiet hbelow
    | handlers e list o =>
        cases list with
        | nil => exact hquiet hbelow
        | cons h rest =>
            refine hquiet ?_
            simp [step, callHandler_announces, Call.announces, hbelow]
    | handled e ending =>
        cases ending with
        | ok => exact hquiet hbelow
        | failed message =>
            refine hquiet ?_
            simp only [step, failHandler]
            split
            · exact hbelow
            · exact hbelow
        | broken =>
            rw [w.step_breaks rfl]
            exact hquiet (announced_caught hbelow)
    | flush =>
        simp only [step]
        split
        · exact hquiet hbelow
        · exact hquiet hbelow
    | drain =>
        simp only [step]
        split
        · exact hquiet hbelow
        · exact hquiet hbelow
    | observers next list =>
        cases list with
        | nil => exact hquiet hbelow
        | cons o rest =>
            cases o with
            | scripted name => exact hquiet hbelow
            | notifier =>
                have hrest : announced (.observers next rest :: calls) = [] := hbelow
                refine ⟨?_, hrest, fun _ => rfl⟩
                change [next] ++ announced (.observers next rest :: calls) = [next]
                rw [hrest]
                rfl
    | observer o next =>
        refine hquiet ?_
        simp [step, callObserver_announces, hbelow]
    | observed breaks =>
        cases breaks with
        | false => exact hquiet hbelow
        | true =>
            rw [w.step_breaks rfl]
            exact hquiet (announced_caught hbelow)
    | session epoch => exact hquiet (w.runSession_announces epoch value hbelow)

end World

theorem Thread.decide_announces (t : Thread) (actions : List Action) (ending : Ending) :
    announced (t.decide actions ending).calls = announced t.calls ∧
      (Tidy t.calls → Tidy (t.decide actions ending).calls) := by
  unfold decide
  split
  next hcalls =>
    rw [hcalls]
    refine ⟨rfl, fun h => ⟨h.below, fun hne => ?_⟩⟩
    have hrole := h.telling hne
    cases hrole
  next hcalls =>
    rw [hcalls]
    refine ⟨rfl, fun h => ⟨h.below, fun hne => ?_⟩⟩
    have hrole := h.telling hne
    cases hrole
  next => exact ⟨rfl, id⟩

/-! ## Runs -/

namespace Pool

/-- What all threads are about to tell the notifier. -/
def announcedBy (threads : List Thread) : List ConnectionState :=
  threads.flatMap fun t => announced t.calls

variable {p : Pool} {m : Move} {moves : List Move}

/-- While no change is being told, the notifier is told nothing. -/
theorem announcedBy_eq_nil {threads : List Thread}
    (htidy : ∀ t ∈ threads, Tidy t.calls)
    (hnone : inRole .telling (dutiesOf threads) = 0) : announcedBy threads = [] := by
  refine List.flatMap_eq_nil_iff.mpr fun t ht => ?_
  by_contra hne
  have hpos := (htidy t ht).tellings_pos hne
  rw [← inRole_duties (by decide), inRole, List.countP_pos_iff] at hpos
  obtain ⟨c, hc, hrole⟩ := hpos
  exact List.countP_eq_zero.mp hnone c (List.mem_flatMap.mpr ⟨t, ht, hc⟩) hrole

/-- The change that is being told is told by one thread alone. -/
theorem announcedBy_elsewhere {before after : List Thread} {t : Thread}
    (htidy : ∀ u ∈ before ++ after, Tidy u.calls)
    (hle : inRole .telling (dutiesOf (before ++ t :: after)) ≤ 1)
    (hpos : 0 < inRole .telling t.calls) :
    announcedBy before = [] ∧ announcedBy after = [] := by
  rw [← inRole_duties (by decide)] at hpos
  simp only [dutiesOf, List.flatMap_append, List.flatMap_cons, inRole_append] at hle
  refine ⟨announcedBy_eq_nil (fun u hu => htidy u (List.mem_append_left _ hu)) ?_,
    announcedBy_eq_nil (fun u hu => htidy u (List.mem_append_right _ hu)) ?_⟩
  · rw [dutiesOf]
    omega
  · rw [dutiesOf]
    omega

theorem tellings_le_one (hshape : p.Shaped) (hattended : p.Attended) :
    inRole .telling (dutiesOf p.threads) ≤ 1 := by
  refine Nat.le_trans (tellings_le_drains hshape) ?_
  rw [hattended.drainers]
  split <;> omega

/-- What the notifier hears with a move is what some thread has been about to tell it. -/
theorem move_heard (hshape : p.Shaped) (hattended : p.Attended)
    (htidy : ∀ t ∈ p.threads, Tidy t.calls)
    (hdirect : ∀ state, Action.notify .notifier (.ok state) ∉ p.performed m) :
    (∀ t ∈ (p.move m).threads, Tidy t.calls) ∧ p.heard m ++ announcedBy (p.move m).threads =
      announcedBy p.threads ++ p.told .notifier m := by
  have hidle : p.call? m = none → (∀ t ∈ (p.move m).threads, Tidy t.calls) →
      announcedBy (p.move m).threads = announcedBy p.threads →
      (∀ t ∈ (p.move m).threads, Tidy t.calls) ∧ p.heard m ++ announcedBy (p.move m).threads =
        announcedBy p.threads ++ p.told .notifier m := by
    intro hcall hnext hsame
    rw [heard, told, hcall, hsame]
    exact ⟨hnext, (List.append_nil _).symm⟩
  have hjoin : ∀ {c : Call}, announced [c] = [] →
      (∀ t ∈ p.threads ++ [⟨[c], .none⟩], Tidy t.calls) ∧
        announcedBy (p.threads ++ [⟨[c], .none⟩]) = announcedBy p.threads := by
    intro c hc
    refine ⟨List.forall_mem_append.mpr ⟨htidy, ?_⟩, ?_⟩
    · exact List.forall_mem_singleton.mpr (.of_silent hc)
    · simp [announcedBy, hc]
  cases m with
  | begin actions =>
      obtain ⟨hnext, hsame⟩ := @hjoin (.actions actions) rfl
      exact hidle rfl hnext hsame
  | poll epoch =>
      by_cases hpolled : p.threads.any (·.polls epoch) = true
      · have hmove : p.move (.poll epoch) = p := by simp [move, hpolled]
        exact hidle rfl (hmove.symm ▸ htidy) (by rw [hmove])
      · obtain ⟨hnext, hsame⟩ := @hjoin (.session epoch) rfl
        have hmove : p.move (.poll epoch) =
            ⟨p.world, p.threads ++ [⟨[.session epoch], .none⟩]⟩ := by simp [move, hpolled]
        exact hidle rfl (hmove.symm ▸ hnext) (by rw [hmove]; exact hsame)
  | decide i actions ending =>
      rcases p.move_decide i actions ending with hmove | ⟨before, t, after, hthreads, hmove⟩
      · exact hidle rfl (hmove.symm ▸ htidy) (by rw [hmove])
      · obtain ⟨hsame, hkept⟩ := t.decide_announces actions ending
        refine hidle rfl ?_ ?_
        · rw [hmove]
          exact forall_threads_replace htidy hthreads hkept
        · rw [hmove, hthreads]
          simp [announcedBy, hsame]
  | tick time => exact hidle rfl htidy rfl
  | step i =>
      rcases p.move_step i with ⟨hcall, hmove⟩ | ⟨before, t, after, hthreads, hcall, hmove⟩
      · exact hidle hcall (hmove.symm ▸ htidy) (by rw [hmove])
      · have ht : Tidy t.calls := htidy t (by simp [hthreads])
        have hothers : ∀ u ∈ before ++ after, Tidy u.calls := fun u hu =>
          htidy u (by rw [hthreads]; rcases List.mem_append.mp hu with hu | hu <;> simp [hu])
        have hnotify : ∀ state,
            Call.performed t.calls.head? ≠ [.notify .notifier (.ok state)] := by
          intro state heq
          refine hdirect state ?_
          rw [performed, hcall, heq]
          exact List.mem_singleton_self _
        obtain ⟨hannounced, hnext⟩ := World.step_announces (w := p.world) ht hnotify
        have hle := tellings_le_one hshape hattended
        rw [hthreads] at hle
        rw [hmove]
        refine ⟨forall_threads_replace htidy hthreads fun _ => hnext, ?_⟩
        simp only [heard, told, hcall, hthreads, announcedBy, List.flatMap_append,
          List.flatMap_cons, hannounced, ht.heard_eq]
        by_cases hpos : 0 < inRole .telling t.calls
        · -- this thread tells, so that no other one does
          obtain ⟨hbefore, hafter⟩ := announcedBy_elsewhere hothers hle hpos
          rw [announcedBy] at hbefore hafter
          rw [hbefore, hafter]
          simp
        · obtain ⟨hsilent, hnone⟩ := ht.silent hpos
          rw [hsilent, hnone]
          simp

theorem run_heard (hshape : p.Shaped) (hattended : p.Attended)
    (htidy : ∀ t ∈ p.threads, Tidy t.calls)
    (hdirect : ∀ state, Action.notify .notifier (.ok state) ∉ p.trace performed moves) :
    (∀ t ∈ (p.run moves).threads, Tidy t.calls) ∧
      p.trace heard moves ++ announcedBy (p.run moves).threads =
        announcedBy p.threads ++ p.trace (told .notifier) moves := by
  induction moves using List.reverseRecOn with
  | nil => exact ⟨htidy, (List.append_nil _).symm⟩
  | append_singleton moves m ih =>
      simp only [trace_concat, List.mem_append, not_or] at hdirect
      obtain ⟨hrun, hheard⟩ := ih fun state => (hdirect state).1
      obtain ⟨hnext, hmove⟩ := move_heard (run_shaped moves hshape)
        (run_attended hshape hattended) hrun fun state => (hdirect state).2
      refine ⟨by rw [run_concat]; exact hnext, ?_⟩
      rw [trace_concat, trace_concat, run_concat, List.append_assoc, hmove, ← List.append_assoc,
        hheard, List.append_assoc]

end Pool

end EventFeed.Simulation
