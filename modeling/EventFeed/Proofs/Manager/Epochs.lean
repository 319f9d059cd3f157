import EventFeed.Proofs.Interleaving.Moves

/-! # Epochs

Every request starts an epoch, and no two sessions belong to the same one. The session of the
current epoch, if it is there, has not been told to stop, and what it is at agrees with the state of
the connection.
-/

namespace EventFeed.Simulation

/-- What holds at every moment of a run in which the epochs have not run out. -/
structure World.Orderly (w : World) : Prop where
  distinct : (w.posts.map Prod.fst).Nodup
  bounded : ∀ post ∈ w.posts, post.1 ≤ w.lifecycle.epoch
  owner : w.lifecycle.owner = none ∨ w.lifecycle.owner = some w.lifecycle.epoch
  current : ∀ a, (w.lifecycle.epoch, a) ∈ w.posts →
    w.lifecycle.owner = some w.lifecycle.epoch ∧ a.admits w.lifecycle.state = true

namespace World

variable {w w' : World} {calls calls' : List Call}

/-- An epoch that has not run out is followed by a later one. -/
theorem lt_next_epoch {e epoch : UInt64} (he : e ≤ epoch) (hfit : epoch.toNat + 1 < 2 ^ 64) :
    e < epoch + 1 := by
  rw [UInt64.le_iff_toNat_le] at he
  rw [UInt64.lt_iff_toNat_lt, UInt64.toNat_add, UInt64.toNat_one, Nat.mod_eq_of_lt hfit]
  omega

namespace Orderly

theorem start (scenario : Scenario) (opens : List OpenScript) :
    (World.start scenario opens).Orderly where
  distinct := List.nodup_nil
  bounded := List.forall_mem_nil _
  owner := Or.inl rfl
  current := fun _ ha => absurd ha List.not_mem_nil

/-- Sessions may end as long as state and epoch stay. -/
theorem of_sublist (h : w.Orderly) (hposts : w'.posts.Sublist w.posts)
    (hstate : w'.lifecycle.state = w.lifecycle.state)
    (hepoch : w'.lifecycle.epoch = w.lifecycle.epoch)
    (howner : w'.lifecycle.owner = w.lifecycle.owner) : w'.Orderly where
  distinct := h.distinct.sublist (hposts.map _)
  bounded := fun post hpost => hepoch ▸ h.bounded post (hposts.subset hpost)
  owner := by rw [howner, hepoch]; exact h.owner
  current := fun a ha => by
    rw [hepoch] at ha ⊢
    rw [howner, hstate]
    exact h.current a (hposts.subset ha)

theorem of_posts_eq (h : w.Orderly) (hposts : w'.posts = w.posts)
    (hlifecycle : w'.lifecycle = w.lifecycle) : w'.Orderly :=
  h.of_sublist (hposts ▸ List.Sublist.refl _) (by rw [hlifecycle]) (by rw [hlifecycle])
    (by rw [hlifecycle])

/-- After a request no session is in the new epoch. -/
theorem request (h : w.Orderly) (hfit : w.lifecycle.epoch.toNat + 1 < 2 ^ 64) :
    ∀ post ∈ w.posts, post.1 < w.lifecycle.epoch + 1 :=
  fun post hpost => lt_next_epoch (h.bounded post hpost) hfit

theorem connect (h : w.Orderly) (hfit : w.lifecycle.epoch.toNat + 1 < 2 ^ 64)
    (hepoch : w'.lifecycle.epoch = w.lifecycle.epoch + 1)
    (howner : w'.lifecycle.owner = some w'.lifecycle.epoch)
    (hstate : w'.lifecycle.state = .connecting)
    (hposts : w'.posts = w.posts ++ [(w'.lifecycle.epoch, .starting)]) : w'.Orderly where
  distinct := by
    rw [hposts, List.map_append, List.nodup_append]
    refine ⟨h.distinct, by simp, ?_⟩
    intro e he e' he' heq
    -- the new epoch is later than all that are in use
    obtain ⟨post, hpost, rfl⟩ := List.mem_map.mp he
    obtain rfl := List.mem_singleton.mp he'
    have hlt := h.request hfit post hpost
    rw [heq, hepoch] at hlt
    exact UInt64.lt_irrefl _ hlt
  bounded := by
    intro post hpost
    rw [hposts] at hpost
    rcases List.mem_append.mp hpost with hpost | hpost
    · rw [hepoch]
      exact UInt64.le_of_lt (h.request hfit post hpost)
    · rw [List.mem_singleton.mp hpost]
      exact UInt64.le_refl _
  owner := Or.inr howner
  current := by
    intro a ha
    refine ⟨howner, ?_⟩
    rw [hposts] at ha
    rcases List.mem_append.mp ha with ha | ha
    · have hlt := h.request hfit _ ha
      rw [hepoch] at hlt
      exact absurd hlt (UInt64.lt_irrefl _)
    · obtain rfl := (Prod.mk.inj (List.mem_singleton.mp ha)).2
      rw [hstate]
      rfl

theorem disconnect (h : w.Orderly) (hfit : w.lifecycle.epoch.toNat + 1 < 2 ^ 64)
    (hepoch : w'.lifecycle.epoch = w.lifecycle.epoch + 1) (howner : w'.lifecycle.owner = none)
    (hposts : w'.posts = w.posts) : w'.Orderly where
  distinct := hposts ▸ h.distinct
  bounded := fun post hpost => hepoch ▸ UInt64.le_of_lt (h.request hfit post (hposts ▸ hpost))
  owner := Or.inl howner
  current := by
    intro a ha
    have hlt := h.request hfit _ (hposts ▸ ha)
    rw [hepoch] at hlt
    exact absurd hlt (UInt64.lt_irrefl _)

theorem act {a b : Activity} {epoch : UInt64} {progress : Progress} (h : w.Orderly)
    (hacts : a.Acts epoch w.lifecycle w'.lifecycle progress)
    (hb : progress.activity? = some b) (hpost : (epoch, a) ∈ w.posts)
    (hposts : w'.posts = w.posts.map fun post => if post.1 = epoch then (epoch, b) else post) :
    w'.Orderly := by
  obtain ⟨hepoch, howner⟩ := hacts.epoch_eq
  have hfst : w'.posts.map Prod.fst = w.posts.map Prod.fst := by
    rw [hposts, List.map_map]
    refine List.map_congr_left fun post _ => ?_
    simp only [Function.comp_apply]
    split
    next heq => exact heq.symm
    next => rfl
  refine ⟨hfst ▸ h.distinct, ?_, by rw [howner, hepoch]; exact h.owner, ?_⟩
  · intro post hp
    obtain ⟨post', hp', heq⟩ := List.mem_map.mp (hfst ▸ List.mem_map_of_mem hp)
    rw [← heq, hepoch]
    exact h.bounded post' hp'
  · intro b' hb'
    rw [hepoch, hposts] at hb'
    obtain ⟨post, hp, heq⟩ := List.mem_map.mp hb'
    rw [howner, hepoch]
    -- either the session that takes the step, or one that has been superseded
    split at heq
    next =>
      obtain ⟨rfl, rfl⟩ := Prod.mk.inj heq
      obtain ⟨hcurrent, hadmits⟩ := h.current a hpost
      exact ⟨hcurrent, hacts.admits hb rfl hcurrent hadmits⟩
    next hne =>
      subst heq
      rw [hacts.eq_of_superseded (Ne.symm hne).symm]
      exact h.current b' hp

end Orderly

/-- A step that performs a request starts an epoch; no other step does. -/
theorem Does.epoch_le (h : w.Does calls w' calls') :
    w'.lifecycle.epoch.toNat ≤ w.lifecycle.epoch.toNat +
      (Call.performed calls.head?).countP Action.isRequest := by
  have hnext : ∀ e : UInt64, (e + 1).toNat ≤ e.toNat + 1 := by
    intro e
    rw [UInt64.toNat_add]
    -- the epoch may wrap around here, which only makes it smaller
    exact Nat.mod_le _ _
  have hsame : ∀ {n : Nat}, w'.lifecycle.epoch = w.lifecycle.epoch →
      w'.lifecycle.epoch.toNat ≤ w.lifecycle.epoch.toNat + n := by
    intro n he
    rw [he]
    exact Nat.le_add_right _ n
  cases h with
  | plain hs => exact hsame (by rw [hs.lifecycle])
  | connect hl hs =>
      obtain ⟨_, rfl⟩ := Lifecycle.connect?_eq_some.mp hl
      rw [hs.lifecycle]
      simpa [Call.performed, Action.isRequest, Lifecycle.beginEpoch] using hnext w.lifecycle.epoch
  | disconnect hs =>
      rw [hs.lifecycle]
      simpa [Call.performed, Action.isRequest, Lifecycle.disconnect, Lifecycle.beginEpoch] using
        hnext w.lifecycle.epoch
  | observe hl =>
      obtain ⟨_, rfl⟩ := Lifecycle.addObserver?_eq_some.mp hl
      exact hsame rfl
  | take _ hs => exact hsame (by rw [hs.lifecycle])
  | session htask hstep _ hs => exact hsame (session_effect htask hstep hs).2.epoch_eq.1
  | finish htask hstep => exact hsame (by rw [(finish_effect htask hstep).2])
  | _ => exact hsame rfl

/-- A step leaves the sessions in order, unless the epochs run out. -/
theorem Does.orderly (h : w.Does calls w' calls') (horderly : w.Orderly)
    (hfit : w.lifecycle.epoch.toNat + (Call.performed calls.head?).countP Action.isRequest <
      2 ^ 64) : w'.Orderly := by
  cases h with
  | plain hs => exact horderly.of_posts_eq hs.posts hs.lifecycle
  | connect hl hs =>
      obtain ⟨_, rfl⟩ := Lifecycle.connect?_eq_some.mp hl
      have hlifecycle := hs.lifecycle
      have hposts := hs.posts
      exact horderly.connect hfit (by simp [hlifecycle, Lifecycle.beginEpoch])
        (by simp [hlifecycle]) (by simp [hlifecycle])
        (by rw [hposts, hlifecycle]; simp [posts, Session.start])
  | disconnect hs =>
      have hlifecycle := hs.lifecycle
      exact horderly.disconnect hfit
        (by simp [hlifecycle, Lifecycle.disconnect, Lifecycle.beginEpoch])
        (by simp [hlifecycle, Lifecycle.disconnect, Lifecycle.beginEpoch]) hs.posts
  | observe hl =>
      obtain ⟨_, rfl⟩ := Lifecycle.addObserver?_eq_some.mp hl
      exact horderly.of_sublist (List.Sublist.refl _) rfl rfl rfl
  | take _ hs =>
      have hlifecycle := hs.lifecycle
      exact horderly.of_sublist (by rw [hs.posts]; exact List.Sublist.refl _) (by rw [hlifecycle])
        (by rw [hlifecycle]) (by rw [hlifecycle])
  | session htask hstep hb hs =>
      obtain ⟨hposts, hacts⟩ := session_effect htask hstep hs
      exact horderly.act hacts hb (mem_posts_of_task? htask) hposts
  | finish htask hstep =>
      obtain ⟨hposts, hlifecycle⟩ := finish_effect htask hstep
      exact horderly.of_sublist (hposts ▸ List.filter_sublist) (by rw [hlifecycle])
        (by rw [hlifecycle]) (by rw [hlifecycle])
  | broken => exact horderly.of_sublist (removeTask_posts _ _) rfl rfl rfl
  | _ => exact horderly.of_sublist (List.Sublist.refl _) rfl rfl rfl

end World

namespace Pool

variable {p : Pool} {moves : List Move} {m : Move}

theorem performed_requests_eq (p : Pool) (m : Move) :
    p.requests [m] = (Call.performed (p.call? m)).countP Action.isRequest := by
  simp [requests, trace, performed]

theorem move_epoch_le (hshape : p.Shaped) :
    (p.move m).world.lifecycle.epoch.toNat ≤
      p.world.lifecycle.epoch.toNat + p.requests [m] := by
  rcases (p.move_moves m hshape).does with ⟨time, _, hw⟩ | ⟨calls, calls', hcall, _, hdoes⟩
  · rw [hw, (p.world.ring_same time).lifecycle]
    exact Nat.le_add_right _ _
  · rw [performed_requests_eq, hcall]
    exact hdoes.epoch_le

theorem move_orderly (hshape : p.Shaped) (horderly : p.world.Orderly)
    (hfit : p.world.lifecycle.epoch.toNat + p.requests [m] < 2 ^ 64) :
    (p.move m).world.Orderly := by
  rcases (p.move_moves m hshape).does with ⟨time, _, hw⟩ | ⟨calls, calls', hcall, _, hdoes⟩
  · rw [hw]
    exact horderly.of_posts_eq (p.world.ring_posts time) (p.world.ring_same time).lifecycle
  · rw [performed_requests_eq, hcall] at hfit
    exact hdoes.orderly horderly hfit

/-- A run with fewer requests than there are epochs leaves the sessions in order. -/
theorem run_orderly (moves : List Move) (hshape : p.Shaped) (horderly : p.world.Orderly)
    (hfit : p.world.lifecycle.epoch.toNat + p.requests moves < 2 ^ 64) :
    (p.run moves).world.Orderly ∧ (p.run moves).world.lifecycle.epoch.toNat ≤
      p.world.lifecycle.epoch.toNat + p.requests moves := by
  induction moves using List.reverseRecOn with
  | nil => exact ⟨horderly, Nat.le_add_right _ _⟩
  | append_singleton moves m ih =>
      rw [requests_append] at hfit ⊢
      obtain ⟨hrun, hepoch⟩ := ih (by omega)
      rw [run_concat]
      have hshaped := run_shaped moves hshape
      have hle := @move_epoch_le _ m hshaped
      exact ⟨move_orderly hshaped hrun (by omega), by omega⟩

variable {scenario : Scenario} {opens : List OpenScript}

/-- Epochs are counted from zero. -/
theorem epochs_fit (hrequests : (start scenario opens).requests moves < 2 ^ 64) :
    (start scenario opens).world.lifecycle.epoch.toNat + (start scenario opens).requests moves <
      2 ^ 64 := by
  simpa [start, World.start] using hrequests

theorem orderly_of_requests (hrequests : (start scenario opens).requests moves < 2 ^ 64) :
    ((start scenario opens).run moves).world.Orderly := by
  have hshape := start_shaped scenario opens
  exact (run_orderly moves hshape (.start scenario opens) (epochs_fit hrequests)).1

end Pool

end EventFeed.Simulation
