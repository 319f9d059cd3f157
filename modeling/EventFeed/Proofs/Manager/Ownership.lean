import EventFeed.Proofs.Interleaving.Shelter
import EventFeed.Proofs.Manager.Epochs

/-! # Who owns the connection

A connection that is open or being opened, or is to be opened again, has exactly one session that
looks after it. Sessions of earlier epochs are on their way out and change nothing.
-/

namespace EventFeed

/-- The states in which a session looks after the connection. -/
def ConnectionState.isOwned : ConnectionState → Bool
  | connecting | connected | reconnecting => true
  | _ => false

namespace Simulation

/-- A session is about to make a change only while it looks after the connection. -/
theorem Activity.isOwned_of_next? {a : Activity} {state next : ConnectionState}
    (hnext : a.next? = some next) (ha : a.admits state = true) : state.isOwned = true := by
  cases a with
  | retrying delay => cases delay <;> simp_all [next?, admits, ConnectionState.isOwned]
  | retreating => cases state <;> simp_all [admits, ConnectionState.isOwned]
  | _ => simp_all [next?, admits, ConnectionState.isOwned]

/-- A connection that has to be looked after has the session of the current epoch. -/
def World.Manned (w : World) : Prop :=
  w.lifecycle.state.isOwned = true → ∃ a, (w.lifecycle.epoch, a) ∈ w.posts

namespace World

variable {w w' : World} {calls calls' : List Call}

/-- The session of the current epoch ends only when the retries are used up. -/
theorem Orderly.state_of_finish {a : Activity} {l : Lifecycle ObserverId} (h : w.Orderly)
    (hpost : (w.lifecycle.epoch, a) ∈ w.posts)
    (hacts : a.Acts w.lifecycle.epoch w.lifecycle l .finish) : w.lifecycle.state = .failed := by
  obtain ⟨howner, hadmits⟩ := h.current a hpost
  cases hacts with
  | finish hleft =>
      rcases hleft with hstopped | hepoch | hfailed
      · simp [Lifecycle.isStopped, howner] at hstopped
      · exact absurd rfl hepoch
      · exact hfailed _ hadmits

theorem Manned.of_posts (h : w.Manned) (hposts : w'.posts = w.posts)
    (hstate : w'.lifecycle.state = w.lifecycle.state)
    (hepoch : w'.lifecycle.epoch = w.lifecycle.epoch) : w'.Manned := by
  intro howned
  rw [hepoch, hposts]
  exact h (hstate ▸ howned)

theorem Manned.act {a b : Activity} {epoch : UInt64} {progress : Progress} (h : w.Manned)
    (hacts : a.Acts epoch w.lifecycle w'.lifecycle progress) (hpost : (epoch, a) ∈ w.posts)
    (hposts : w'.posts = w.posts.map fun post => if post.1 = epoch then (epoch, b) else post) :
    w'.Manned := by
  intro howned
  rw [hacts.epoch_eq.1, hposts]
  by_cases hepoch : w.lifecycle.epoch = epoch
  · exact ⟨b, List.mem_map.mpr ⟨_, hpost, by simp [hepoch]⟩⟩
  · rw [hacts.eq_of_superseded hepoch] at howned
    obtain ⟨a', ha'⟩ := h howned
    exact ⟨a', List.mem_map.mpr ⟨_, ha', if_neg hepoch⟩⟩

/-- A step leaves the connection manned, if no failure can reach a session. -/
theorem Does.manned (h : w.Does calls w' calls') (horderly : w.Orderly) (hmanned : w.Manned)
    (hsecure : Secure calls) : w'.Manned := by
  cases h with
  | plain hs => exact hmanned.of_posts hs.posts (by rw [hs.lifecycle]) (by rw [hs.lifecycle])
  | connect hl hs =>
      obtain ⟨_, rfl⟩ := Lifecycle.connect?_eq_some.mp hl
      intro _
      rw [hs.posts, hs.lifecycle]
      exact ⟨.starting, by simp [posts, Session.start]⟩
  | disconnect hs =>
      intro howned
      rw [hs.lifecycle] at howned
      simp [Lifecycle.disconnect, ConnectionState.isOwned] at howned
  | observe hl =>
      obtain ⟨_, rfl⟩ := Lifecycle.addObserver?_eq_some.mp hl
      exact hmanned.of_posts rfl rfl rfl
  | take _ hs => exact hmanned.of_posts hs.posts (by rw [hs.lifecycle]) (by rw [hs.lifecycle])
  | session htask hstep _ hs =>
      obtain ⟨hposts, hacts⟩ := session_effect htask hstep hs
      exact hmanned.act hacts (mem_posts_of_task? htask) hposts
  | @finish epoch task value s w₁ below htask hstep =>
      obtain ⟨hposts, hlifecycle⟩ := finish_effect htask hstep
      intro howned
      rw [hlifecycle] at howned ⊢
      obtain ⟨a, ha⟩ := hmanned howned
      -- the session that ends is not the one that looks after the connection
      have hne : w.lifecycle.epoch ≠ epoch := by
        intro heq
        subst heq
        have hfailed := horderly.state_of_finish (mem_posts_of_task? htask)
          (steps_of_task? htask hstep).2
        simp [hfailed, ConnectionState.isOwned] at howned
      rw [hposts]
      exact ⟨a, List.mem_filter.mpr ⟨ha, by simpa using hne⟩⟩
  | broken hbreak hunsheltered =>
      -- a session that is broken off would leave the connection to nobody
      exact absurd (hsecure.sheltered_of_mayBreak hbreak) (by simp [hunsheltered])
  | _ => exact hmanned.of_posts rfl rfl rfl

/-- A step that performs no request, and is not one by which a session changes the state, leaves
state and attempts alone, and at most takes a change off the queue. -/
theorem Does.quiet (h : w.Does calls w' calls')
    (hnone : (Call.performed calls.head?).countP Action.isRequest = 0)
    (hsession : ∀ epoch a l progress, calls.head? = some (.session epoch) →
      (epoch, a) ∈ w.posts → a.Acts epoch w.lifecycle l progress → l = w.lifecycle) :
    w'.lifecycle.state = w.lifecycle.state ∧ w'.lifecycle.attempts = w.lifecycle.attempts ∧
      w'.lifecycle.pending <:+ w.lifecycle.pending := by
  have hsame : w'.lifecycle = w.lifecycle →
      w'.lifecycle.state = w.lifecycle.state ∧ w'.lifecycle.attempts = w.lifecycle.attempts ∧
        w'.lifecycle.pending <:+ w.lifecycle.pending := by
    intro hl
    rw [hl]
    exact ⟨rfl, rfl, List.suffix_rfl⟩
  cases h with
  | plain hs => exact hsame hs.lifecycle
  | connect => simp [Call.performed, Action.isRequest] at hnone
  | disconnect => simp [Call.performed, Action.isRequest] at hnone
  | observe hl =>
      obtain ⟨_, rfl⟩ := Lifecycle.addObserver?_eq_some.mp hl
      exact ⟨rfl, rfl, List.suffix_rfl⟩
  | @take _ t rest _ hpending hs =>
      have hl := hs.lifecycle
      rw [hl, hpending]
      exact ⟨rfl, rfl, List.suffix_cons t rest⟩
  | session htask hstep _ hs =>
      exact hsame (hsession _ _ _ _ rfl (mem_posts_of_task? htask)
        (session_effect htask hstep hs).2)
  | finish htask hstep => exact hsame (finish_effect htask hstep).2
  | _ => exact ⟨rfl, rfl, List.suffix_rfl⟩

/-- A session that looks after nothing changes nothing. -/
theorem Orderly.eq_of_not_owned {a : Activity} {epoch : UInt64} {l : Lifecycle ObserverId}
    {progress : Progress} (h : w.Orderly) (hstate : w.lifecycle.state.isOwned = false)
    (hpost : (epoch, a) ∈ w.posts) (hacts : a.Acts epoch w.lifecycle l progress) :
    l = w.lifecycle := by
  cases hacts with
  | change hnext _ hadvance =>
      obtain ⟨rfl, _⟩ := Lifecycle.advance?_eq_some.mp hadvance
      have howned := Activity.isOwned_of_next? hnext (h.current a hpost).2
      rw [hstate] at howned
      cases howned
  | _ => rfl

/-- A step of a session that has been superseded leaves the whole lifecycle alone. -/
theorem runSession_superseded {epoch : UInt64} (hepoch : epoch ≠ w.lifecycle.epoch)
    (value : Value) (below : List Call) :
    (w.runSession epoch value below).1.lifecycle = w.lifecycle := by
  unfold runSession
  split
  next => rfl
  next task htask =>
    have hsame := fun r hstep =>
      (@steps_of_task? w epoch task value r htask hstep).2.eq_of_superseded (Ne.symm hepoch)
    split
    next hstep => exact hsame _ hstep
    next hstep => exact hsame _ hstep
    next hstep => exact hsame _ hstep

end World

namespace Pool

variable {p : Pool} {moves : List Move} {m : Move}

theorem move_manned (hshape : p.Shaped) (hsheltered : p.Sheltered) (horderly : p.world.Orderly)
    (hmanned : p.world.Manned) : (p.move m).world.Manned := by
  rcases (p.move_moves m hshape).does with ⟨time, _, hw⟩ | ⟨calls, calls', _, hcalls, hdoes⟩
  · rw [hw]
    have hring := (p.world.ring_same time).lifecycle
    exact hmanned.of_posts (p.world.ring_posts time) (by rw [hring]) (by rw [hring])
  · exact hdoes.manned horderly hmanned (secure_of_mem hsheltered.secure hcalls)

theorem run_manned (hshape : p.Shaped) (hsheltered : p.Sheltered) (horderly : p.world.Orderly)
    (hmanned : p.world.Manned)
    (hfit : p.world.lifecycle.epoch.toNat + p.requests moves < 2 ^ 64) :
    (p.run moves).world.Manned := by
  induction moves using List.reverseRecOn with
  | nil => exact hmanned
  | append_singleton moves m ih =>
      rw [requests_append] at hfit
      rw [run_concat]
      exact move_manned (run_shaped moves hshape) (run_sheltered moves hshape hsheltered)
        (run_orderly moves hshape horderly (by omega)).1 (ih (by omega))

/-- A thread at a session that has been superseded may still tell changes that others have queued.
It changes neither the state nor the attempts and queues nothing, unless a callback makes a request.
-/
theorem step_superseded {t : Thread} {i : Nat} {epoch : UInt64} (hshape : p.Shaped)
    (ht : p.threads[i]? = some t) (hpolls : t.polls epoch = true)
    (hepoch : epoch ≠ p.world.lifecycle.epoch) (hnone : p.requests [.step i] = 0) :
    (p.move (.step i)).world.lifecycle.state = p.world.lifecycle.state ∧
      (p.move (.step i)).world.lifecycle.attempts = p.world.lifecycle.attempts ∧
      (p.move (.step i)).world.lifecycle.pending <:+ p.world.lifecycle.pending := by
  have hcalls : Shape t.calls := hshape t (List.mem_of_getElem? ht)
  have hmove : p.move (.step i) = ⟨(p.world.step t).1, p.threads.set i (p.world.step t).2⟩ := by
    simp [move, ht]
  rw [performed_requests_eq] at hnone
  simp only [call?, ht, Option.bind_some] at hnone
  rw [hmove]
  refine (p.world.step_does t hcalls).quiet hnone fun e a l progress hhead _ hacts => ?_
  refine hacts.eq_of_superseded ?_
  -- a step of a session is one of this session, since it lies at the bottom of the thread
  obtain ⟨calls, value⟩ := t
  cases calls with
  | nil => cases hhead
  | cons c calls =>
      obtain rfl := Option.some.inj hhead
      obtain rfl := hcalls.eq_nil_of_session rfl
      have he : e = epoch := by simpa [Thread.polls, Call.isSession] using hpolls
      exact he ▸ Ne.symm hepoch

theorem move_not_owned (hshape : p.Shaped) (horderly : p.world.Orderly)
    (hstate : p.world.lifecycle.state.isOwned = false) (hnone : p.requests [m] = 0) :
    (p.move m).world.lifecycle.state = p.world.lifecycle.state ∧
      (p.move m).world.lifecycle.attempts = p.world.lifecycle.attempts := by
  rcases (p.move_moves m hshape).does with ⟨time, _, hw⟩ | ⟨calls, calls', hcall, _, hdoes⟩
  · rw [hw, (p.world.ring_same time).lifecycle]
    exact ⟨rfl, rfl⟩
  · rw [performed_requests_eq, hcall] at hnone
    obtain ⟨hs, ha, _⟩ := hdoes.quiet hnone fun epoch a l progress _ hpost hacts =>
      horderly.eq_of_not_owned hstate hpost hacts
    exact ⟨hs, ha⟩

/-- While no session looks after the connection, nothing changes the state or the attempts until the
next request. -/
theorem run_not_owned (hshape : p.Shaped) (horderly : p.world.Orderly)
    (hstate : p.world.lifecycle.state.isOwned = false) (hnone : p.requests moves = 0) :
    (p.run moves).world.lifecycle.state = p.world.lifecycle.state ∧
      (p.run moves).world.lifecycle.attempts = p.world.lifecycle.attempts := by
  induction moves using List.reverseRecOn with
  | nil => exact ⟨rfl, rfl⟩
  | append_singleton moves m ih =>
      rw [requests_append] at hnone
      obtain ⟨hs, ha⟩ := ih (by omega)
      have hlt := p.world.lifecycle.epoch.toNat_lt
      have hrun := (run_orderly moves hshape horderly (by omega)).1
      -- the state has stayed, so that the last move starts from the same one
      obtain ⟨hs', ha'⟩ := @move_not_owned _ m (run_shaped moves hshape) hrun (hs ▸ hstate)
        (by omega)
      rw [run_concat]
      exact ⟨hs'.trans hs, ha'.trans ha⟩

/-- At every moment of a run, whoever takes part in it and in whatever order, as long as epochs are
left:

* the sessions have different epochs, none of them later than the current one;
* a session of an earlier epoch has been told to stop, and its steps leave the lifecycle alone,
  while its thread may at most go on to tell changes that have been queued;
* a connection that is open or being opened, or is to be opened again, has exactly one session of
  the current epoch, provided that attempts to open a connection come to an end by themselves;
* once it is disconnected or has failed, state and attempts stay until the next request. -/
theorem one_session_owns_the_connection (scenario : Scenario) (opens : List OpenScript)
    (moves : List Move) (hrequests : (start scenario opens).requests moves < 2 ^ 64) :
    let p := (start scenario opens).run moves
    let l := p.world.lifecycle
    let epochs := p.world.tasks.map fun t => t.session.epoch
    (epochs.Nodup ∧ ∀ e ∈ epochs, e ≤ l.epoch) ∧
      (∀ e ∈ epochs, e ≠ l.epoch → l.isStopped e = true ∧
        (∀ value below, (p.world.runSession e value below).1.lifecycle = l) ∧
        ∀ i t, p.threads[i]? = some t → t.polls e = true → p.requests [.step i] = 0 →
          (p.move (.step i)).world.lifecycle.state = l.state ∧
            (p.move (.step i)).world.lifecycle.attempts = l.attempts ∧
            (p.move (.step i)).world.lifecycle.pending <:+ l.pending) ∧
      ((∀ script ∈ scenario.fallback :: opens, script.Returns) → l.state.isOwned = true →
        epochs.count l.epoch = 1) ∧
      (l.state.isTerminal = true → ∀ later, p.requests later = 0 →
        (p.run later).world.lifecycle.state = l.state ∧
          (p.run later).world.lifecycle.attempts = l.attempts) := by
  intro p l epochs
  have hstart := start_shaped scenario opens
  have hshape : p.Shaped := run_shaped moves hstart
  have horderly : p.world.Orderly := orderly_of_requests hrequests
  have hepochs : epochs = p.world.posts.map Prod.fst := by simp [epochs, World.posts]
  have hnodup : epochs.Nodup := hepochs ▸ horderly.distinct
  refine ⟨⟨hnodup, ?_⟩, ?_, ?_, ?_⟩
  · intro e he
    obtain ⟨post, hpost, rfl⟩ := List.mem_map.mp (hepochs ▸ he)
    exact horderly.bounded post hpost
  · intro e _ hne
    refine ⟨?_, World.runSession_superseded hne, fun i t ht hpolls hnone => ?_⟩
    · rcases horderly.owner with howner | howner
      · simp [l, Lifecycle.isStopped, howner]
      · simpa [l, Lifecycle.isStopped, howner] using hne.symm
    · exact step_superseded hshape ht hpolls hne hnone
  · intro hreturns howned
    have hmanned : p.world.Manned := run_manned hstart (start_sheltered hreturns)
      (.start scenario opens) (fun hidle => by cases hidle) (epochs_fit hrequests)
    obtain ⟨a, ha⟩ := hmanned howned
    have hmem : l.epoch ∈ epochs := hepochs ▸ List.mem_map_of_mem ha
    rw [hnodup.count, if_pos hmem]
  · intro hterminal later hnone
    refine run_not_owned hshape horderly ?_ hnone
    change l.state.isOwned = false
    revert hterminal
    cases l.state <;> decide

/-- A caller connects, disconnects, and connects again. -/
def secondThoughts : List Move :=
  .begin [.connect, .disconnect, .connect] :: List.replicate 13 (.step 0)

theorem one_session_owns_the_connection_second_thoughts :
    let p := (start {} []).run secondThoughts
    (start {} []).requests secondThoughts < 2 ^ 64 ∧
      (p.world.tasks.map fun t => t.session.epoch) = [1, 3] ∧
      p.world.lifecycle.isStopped 1 = true ∧
      (p.world.tasks.map fun t => t.session.epoch).count 3 = 1 := by
  intro p
  have hrequests : (start {} []).requests secondThoughts < 2 ^ 64 := by decide
  have hepochs : (p.world.tasks.map fun t => t.session.epoch) = [1, 3] := by decide
  have hepoch : p.world.lifecycle.epoch = 3 := by decide
  have hstate : p.world.lifecycle.state.isOwned = true := by decide
  obtain ⟨_, hstale, howner, _⟩ := one_session_owns_the_connection {} [] secondThoughts hrequests
  refine ⟨hrequests, hepochs, (hstale 1 ?_ ?_).1, hepoch ▸ howner ?_ hstate⟩
  · exact hepochs ▸ List.mem_cons_self
  · exact hepoch ▸ by decide
  · simp [OpenScript.Returns]

end Pool

end Simulation

end EventFeed
