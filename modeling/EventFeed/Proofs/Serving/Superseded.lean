import EventFeed.Proofs.Manager.Epochs
import EventFeed.Proofs.Serving.Remainder

/-! # Sessions that have been superseded

A request makes the session of an earlier epoch superseded, wherever the session is at that moment
and whoever makes the request. From then on the session reads nothing and sends no heartbeat; the
handlers of the event that is being delivered for it are still called, and it closes its connection
if it has one.
-/

namespace EventFeed.Simulation

namespace World

variable {w w' : World} {calls calls' : List Call} {epoch : UInt64} {first : Nat}

/-- Epochs do not come back, unless they run out. -/
theorem Does.le_epoch (h : w.Does calls w' calls')
    (hfit : w.lifecycle.epoch.toNat + (Call.performed calls.head?).countP Action.isRequest <
      2 ^ 64) : w.lifecycle.epoch ≤ w'.lifecycle.epoch := by
  have hsame : w'.lifecycle.epoch = w.lifecycle.epoch →
      w.lifecycle.epoch ≤ w'.lifecycle.epoch := fun he => by rw [he]; exact UInt64.le_refl _
  have hnext : w.lifecycle.epoch.toNat + 1 < 2 ^ 64 →
      w'.lifecycle.epoch = w.lifecycle.epoch + 1 → w.lifecycle.epoch ≤ w'.lifecycle.epoch := by
    intro hfit he
    rw [he]
    exact UInt64.le_of_lt (lt_next_epoch (UInt64.le_refl _) hfit)
  cases h with
  | plain hs => exact hsame (by rw [hs.lifecycle])
  | connect hl hs =>
      obtain ⟨_, rfl⟩ := Lifecycle.connect?_eq_some.mp hl
      exact hnext hfit (by simp [hs.lifecycle, Lifecycle.beginEpoch])
  | disconnect hs =>
      exact hnext hfit (by simp [hs.lifecycle, Lifecycle.disconnect, Lifecycle.beginEpoch])
  | observe hl =>
      obtain ⟨_, rfl⟩ := Lifecycle.addObserver?_eq_some.mp hl
      exact hsame rfl
  | take _ hs => exact hsame (by rw [hs.lifecycle])
  | session htask hstep _ hs => exact hsame (session_effect htask hstep hs).2.epoch_eq.1
  | finish htask hstep => exact hsame (by rw [(finish_effect htask hstep).2])
  | _ => exact hsame rfl

theorem Orderly.superseded (h : w.Orderly) (hlt : epoch < w.lifecycle.epoch) :
    w.Superseded epoch := by
  have hne : w.lifecycle.epoch ≠ epoch := fun heq => by
    rw [heq] at hlt
    exact UInt64.lt_irrefl _ hlt
  refine ⟨?_, hne⟩
  rcases h.owner with hnone | hcurrent
  · simp [Lifecycle.isStopped, hnone]
  · simp [Lifecycle.isStopped, hcurrent, hne]

/-- Only a session that has been superseded starts to send a close frame. -/
theorem Orderly.lt_of_begins {a : Activity} {n : Nat} (h : w.Orderly)
    (hpost : (epoch, a) ∈ w.posts) (hclose : .close ∈ w.begins n epoch a) :
    epoch < w.lifecycle.epoch := by
  have hne : w.lifecycle.epoch ≠ epoch := by
    cases a with
    | serving k heartbeat =>
        intro heq
        subst heq
        simp only [begins] at hclose
        split at hclose
        · split at hclose <;> simp at hclose
        · next hturn =>
          have hstopped := Heartbeat.stopped_of_turn hturn
          simp [Lifecycle.isStopped, (h.current _ hpost).1] at hstopped
        · cases hclose
    | accepted k =>
        simp only [begins] at hclose
        split at hclose
        · next hk => exact hk.2
        · cases hclose
    | _ => cases hclose
  exact UInt64.lt_of_le_of_ne (h.bounded _ hpost) hne.symm

/-- The session of an epoch serves none of the connections that are opened from some moment on: it
closes one that it is given. -/
def Unserved (w : World) (epoch : UInt64) (first : Nat) : Prop :=
  ∀ a n, (epoch, a) ∈ w.posts → a.link? = some n → first ≤ n →
    a = .accepted n ∨ a.isLeaving = true

theorem Custody.unserved (h : w.Custody) (epoch : UInt64) : w.Unserved epoch w.links.length :=
  fun _ _ hpost hlink hle => absurd (h.opened hpost hlink) (Nat.not_lt.mpr hle)

theorem Uses.unserved {call : Option Call} (h : w.Uses call w') (hsuperseded : w.Superseded epoch)
    (hunserved : w.Unserved epoch first) : w'.Unserved epoch first := by
  intro b n hpost' hlink hle
  cases h with
  | idle _ hposts =>
      rcases hposts _ hpost' with hold | hnone
      · exact hunserved b n hold hlink hle
      · rw [hlink] at hnone
        cases hnone
  | @goes e a b' _ hpost _ hposts hhands =>
      rw [hposts] at hpost'
      rcases mem_posts_map hpost' with ⟨rfl, rfl⟩ | ⟨_, hold⟩
      · cases hhands with
        | free hnone => rw [hlink] at hnone; cases hnone
        | accept => exact .inl (congrArg Activity.accepted (Option.some.inj hlink))
        | use hlinka hlinkb hstays _ _ hclose =>
            obtain rfl := Option.some.inj (hlink.symm.trans hlinkb)
            rcases hunserved a n hpost hlinka hle with rfl | hleaving
            · exact absurd (by simp [begins, hsuperseded.outdated]) (hclose n)
            · rw [hleaving] at hstays
              cases hstays
        | leave | closing | closed => exact .inr rfl
      · exact hunserved b n hold hlink hle
  | ends _ _ _ hposts =>
      exact hunserved b n (List.mem_filter.mp (hposts ▸ hpost')).1 hlink hle

end World

namespace Pool

/-- What is seen of a run when the session of an epoch goes on. -/
def bySession {α : Type} (epoch : UInt64) (see : Pool → Move → List α) (p : Pool) (m : Move) :
    List α :=
  match p.call? m with
  | some (.session e) => if e = epoch then see p m else []
  | _ => []

variable {p : Pool} {m : Move} {moves before later : List Move} {epoch : UInt64} {n : Nat}

section BySession

variable {α : Type} {see : Pool → Move → List α}

theorem mem_bySession {x : α} (h : x ∈ p.bySession epoch see m) :
    p.call? m = some (.session epoch) ∧ x ∈ see p m := by
  unfold bySession at h
  split at h
  next e hcall =>
    split at h
    next he => exact ⟨he ▸ hcall, h⟩
    next => cases h
  next => cases h

end BySession

theorem move_le_epoch (hshape : p.Shaped)
    (hfit : p.world.lifecycle.epoch.toNat + p.requests [m] < 2 ^ 64) :
    p.world.lifecycle.epoch ≤ (p.move m).world.lifecycle.epoch := by
  rcases (p.move_moves m hshape).does with ⟨time, _, hw⟩ | ⟨calls, calls', hcall, _, hdoes⟩
  · rw [hw, (p.world.ring_same time).lifecycle]
    exact UInt64.le_refl _
  · rw [performed_requests_eq, hcall] at hfit
    exact hdoes.le_epoch hfit

theorem run_le_epoch (later : List Move) (hshape : p.Shaped) (horderly : p.world.Orderly)
    (hfit : p.world.lifecycle.epoch.toNat + p.requests later < 2 ^ 64) :
    p.world.lifecycle.epoch ≤ (p.run later).world.lifecycle.epoch := by
  induction later using List.reverseRecOn with
  | nil => exact UInt64.le_refl _
  | append_singleton later m ih =>
      rw [requests_append] at hfit
      have hepoch := (run_orderly later hshape horderly (by omega)).2
      rw [run_concat]
      exact UInt64.le_trans (ih (by omega)) (move_le_epoch (run_shaped later hshape) (by omega))

/-- A session that has been superseded stays so. -/
theorem run_superseded (hshape : p.Shaped) (horderly : p.world.Orderly)
    (hfit : p.world.lifecycle.epoch.toNat + p.requests later < 2 ^ 64)
    (hlt : epoch < p.world.lifecycle.epoch) (hbefore : before <+: later) :
    (p.run before).world.Superseded epoch := by
  obtain ⟨rest, rfl⟩ := hbefore
  rw [requests_append] at hfit
  have hearlier : p.world.lifecycle.epoch.toNat + p.requests before < 2 ^ 64 := by omega
  have hle := run_le_epoch before hshape horderly hearlier
  exact (run_orderly before hshape horderly hearlier).1.superseded (UInt64.lt_of_lt_of_le hlt hle)

/-- A session that has been superseded reads nothing, hands nothing over, and starts to send nothing
but a close frame. -/
theorem trace_superseded (hshape : p.Shaped)
    (hsuperseded : ∀ before, before <+: later → (p.run before).world.Superseded epoch) :
    p.trace (bySession epoch (read n)) later = [] ∧
      p.trace (bySession epoch (handed n)) later = [] ∧
      ∀ frame ∈ p.trace (bySession epoch (begun n)) later, frame = .close := by
  have hread : ∀ before m, before <+: later →
      (p.run before).call? m = some (.session epoch) → (p.run before).read n m = [] := by
    intro before m hbefore hcall
    have hnow := hsuperseded before hbefore
    rw [read, hcall, World.readings]
    cases (p.run before).world.activity? epoch with
    | none => rfl
    | some a => exact hnow.takesOut n a
  refine ⟨List.eq_nil_iff_forall_not_mem.mpr fun item hitem => ?_,
    List.eq_nil_iff_forall_not_mem.mpr fun event hevent => ?_, fun frame hframe => ?_⟩
  · obtain ⟨before, m, after, rfl, hseen⟩ := exists_of_mem_trace hitem
    obtain ⟨hcall, hitem⟩ := mem_bySession hseen
    rw [hread before m (List.prefix_append _ _) hcall] at hitem
    cases hitem
  · obtain ⟨before, m, after, rfl, hseen⟩ := exists_of_mem_trace hevent
    obtain ⟨hcall, hevent⟩ := mem_bySession hseen
    rw [move_handed (run_shaped before hshape),
      hread before m (List.prefix_append _ _) hcall] at hevent
    cases hevent
  · obtain ⟨before, m, after, rfl, hseen⟩ := exists_of_mem_trace hframe
    obtain ⟨hcall, hframe⟩ := mem_bySession hseen
    have hnow := hsuperseded before (List.prefix_append _ _)
    rw [begun, hcall, World.beginnings] at hframe
    cases ha : (p.run before).world.activity? epoch with
    | none => rw [ha] at hframe; cases hframe
    | some a =>
        rw [ha] at hframe
        exact hnow.begins n a frame hframe

theorem run_unserved (hshape : p.Shaped) (hcustody : p.world.Custody)
    (hsuperseded : ∀ before, before <+: later → (p.run before).world.Superseded epoch) :
    (p.run later).world.Unserved epoch p.world.links.length := by
  induction later using List.reverseRecOn with
  | nil => exact hcustody.unserved epoch
  | append_singleton later m ih =>
      have hearlier := ih fun before hbefore =>
        hsuperseded before (hbefore.trans (List.prefix_append _ _))
      rw [run_concat]
      exact (move_uses (run_shaped later hshape) (run_custody later hshape hcustody)).unserved
        (hsuperseded later (List.prefix_append _ _)) hearlier

/-- Only a session that has been superseded starts to send a close frame. -/
theorem exists_of_close (horderly : p.world.Orderly) (hclose : .close ∈ p.begun n m) :
    ∃ epoch < p.world.lifecycle.epoch, p.call? m = some (.session epoch) := by
  unfold begun World.beginnings at hclose
  split at hclose
  next epoch hcall =>
    rw [World.activity?] at hclose
    cases htask : p.world.task? epoch with
    | none => simp [htask] at hclose
    | some task =>
        simp only [htask, Option.map_some, Option.getD_some] at hclose
        exact ⟨epoch, horderly.lt_of_begins (World.mem_posts_of_task? htask) hclose, hcall⟩
  next => cases hclose

/-- From the moment at which a session is superseded, whoever makes the request and whatever the
session is doing, it reads nothing more from any connection, hands no event over, and starts to send
no heartbeat. Of the event that is being delivered for it at that moment the remaining handlers are
called, in their order, and no others; if the event has been handed over and its delivery is yet to
start, the handlers that are called are called with this event. A connection that is opened for it
afterwards is never served. What is sent on any connection, and what goes out on it, are heartbeats
and then at most one close frame, which only a session that has been superseded sends; a connection
that is given up as lost is sent none. -/
theorem superseded_sessions_wind_up (scenario : Scenario) (opens : List OpenScript)
    (moves later : List Move)
    (hrequests : (start scenario opens).requests (moves ++ later) < 2 ^ 64) :
    let p := start scenario opens
    let q := p.run moves
    let r := q.run later
    (∀ epoch < q.world.lifecycle.epoch,
      (∀ n, q.trace (bySession epoch (read n)) later = [] ∧
        q.trace (bySession epoch (handed n)) later = [] ∧
        ∀ frame ∈ q.trace (bySession epoch (begun n)) later, frame = .close) ∧
      (∀ i, ((q.thread i).handsOver? epoch = none →
          q.trace (calling i epoch) later ++ (r.thread i).ahead epoch =
            (q.thread i).ahead epoch) ∧
        ∀ e, (q.thread i).handsOver? epoch = some e →
          ∀ x ∈ q.trace (calling i epoch) later, x.1 = e) ∧
      ∀ a n, (epoch, a) ∈ r.world.posts → a.link? = some n → q.world.links.length ≤ n →
        a = .accepted n ∨ a.isLeaving = true) ∧
    ∀ n, InOrder (p.trace (begun n) moves) ∧ InOrder (q.world.outgoing n).sent ∧
      (q.world.outgoing n).started = (p.trace (begun n) moves).length ∧
      (.close ∈ (q.world.outgoing n).sent → .close ∈ p.trace (begun n) moves) ∧
      (∀ m, .close ∈ q.begun n m →
        ∃ epoch < q.world.lifecycle.epoch, q.call? m = some (.session epoch)) ∧
      ∀ epoch loss, (epoch, .losing n loss) ∈ q.world.posts →
        .close ∉ p.trace (begun n) (moves ++ later) := by
  intro p q r
  have hshape : p.Shaped := start_shaped scenario opens
  have hshaped : q.Shaped := run_shaped moves hshape
  have hcustody : q.world.Custody := run_custody moves hshape (.start scenario opens)
  rw [requests_append] at hrequests
  have hrun := run_orderly moves hshape (.start scenario opens) (epochs_fit (by omega))
  obtain ⟨horderly, hepoch⟩ := hrun
  have hfit : q.world.lifecycle.epoch.toNat + q.requests later < 2 ^ 64 := by
    have hzero : p.world.lifecycle.epoch.toNat = 0 := rfl
    have hrequests' : p.requests moves + q.requests later < 2 ^ 64 := hrequests
    have hepoch' : q.world.lifecycle.epoch.toNat ≤ p.world.lifecycle.epoch.toNat +
      p.requests moves := hepoch
    omega
  refine ⟨fun epoch hlt => ?_, fun n => ?_⟩
  · have hsuperseded := fun before (hbefore : before <+: later) =>
      run_superseded hshaped horderly hfit hlt hbefore
    refine ⟨fun n => trace_superseded hshaped hsuperseded, fun i => ?_,
      run_unserved hshaped hcustody hsuperseded⟩
    have howes := run_owes (i := i) later hshaped hsuperseded
    refine ⟨fun hnone => (howes.settled hnone).1, fun e he x hx => ?_⟩
    exact (howes.fresh e he).1 x (List.mem_append_left _ hx)
  · have hconduct := run_conduct moves hshape (.start scenario opens)
      (World.Conduct.start scenario opens n)
    rw [List.nil_append] at hconduct
    refine ⟨hconduct.ordered, hconduct.taken, hconduct.counted,
      fun hsent => (hconduct.final hsent).1, fun m => exists_of_close horderly, ?_⟩
    intro epoch loss hpost hclose
    obtain ⟨_, hnone⟩ := run_lost later hshaped hcustody (hcustody.lost hpost)
    rw [trace_append, hnone, List.append_nil] at hclose
    -- whoever gives the connection up would be taking leave of it
    have hleaving := (hconduct.leaving _ hpost rfl).mpr hclose
    cases hleaving

/-- A connection holds two events, and the first handler of the first one disconnects. -/
def resigning : Scenario where
  fallback := { items := [
    .frame (.text "\x7b\"type\":\"service.registered\"\x7d"),
    .frame (.text "\x7b\"type\":\"service.registered\"\x7d")] }
  handlers := [("quits", { actions := [.disconnect] }), ("stays", {})]

/-- The session has handed the first event over, and its first handler has just disconnected. -/
def resigningRun : List Move :=
  .begin [.subscribe "service.registered" (.scripted "quits"),
    .subscribe "service.registered" (.scripted "stays"), .connect] ::
  List.replicate 20 (.step 0) ++ .poll 1 :: List.replicate 15 (.step 1)

/-- The delivery comes to its end, and the session closes the connection. -/
def resigningEnd : List Move := List.replicate 15 (.step 1)

theorem superseded_sessions_wind_up_resigning :
    (start resigning []).requests (resigningRun ++ resigningEnd) < 2 ^ 64 ∧
      1 < ((start resigning []).run resigningRun).world.lifecycle.epoch ∧
      ((start resigning []).run resigningRun).world.inbox 0 ≠ [] ∧
      ((start resigning []).run resigningRun).trace (bySession 1 (read 0)) resigningEnd = [] ∧
      (((start resigning []).run resigningRun).trace (calling 1 1) resigningEnd).map Prod.snd =
        [.scripted "stays"] ∧
      InOrder (((start resigning []).run (resigningRun ++ resigningEnd)).world.outgoing 0).sent ∧
      (((start resigning []).run (resigningRun ++ resigningEnd)).world.outgoing 0).sent =
        [.close] := by
  have hrequests : (start resigning []).requests (resigningRun ++ resigningEnd) < 2 ^ 64 := by
    decide +kernel
  have hrequests' :
      (start resigning []).requests (resigningRun ++ resigningEnd ++ []) < 2 ^ 64 := by
    rwa [List.append_nil]
  have hlt : 1 < ((start resigning []).run resigningRun).world.lifecycle.epoch := by
    decide +kernel
  have hinbox : ((start resigning []).run resigningRun).world.inbox 0 ≠ [] := by decide +kernel
  have hover : (((start resigning []).run resigningRun).thread 1).handsOver? 1 = none := by
    decide +kernel
  have hahead : ((((start resigning []).run resigningRun).thread 1).ahead 1).map Prod.snd =
      [.scripted "stays"] := by decide +kernel
  have hahead' : (((((start resigning []).run resigningRun).run resigningEnd).thread 1).ahead
      1) = [] := by decide +kernel
  have hsent : (((start resigning []).run (resigningRun ++ resigningEnd)).world.outgoing 0).sent =
      [.close] := by decide +kernel
  obtain ⟨hsuperseded, _⟩ := superseded_sessions_wind_up resigning [] resigningRun resigningEnd
    hrequests
  obtain ⟨_, hframes⟩ := superseded_sessions_wind_up resigning [] (resigningRun ++ resigningEnd) []
    hrequests'
  obtain ⟨hquiet, hcalled, _⟩ := hsuperseded 1 hlt
  have hrest := (hcalled 1).1 hover
  rw [hahead', List.append_nil] at hrest
  refine ⟨hrequests, hlt, hinbox, (hquiet 0).1, ?_, (hframes 0).2.1, hsent⟩
  rw [hrest, hahead]

end Pool

end EventFeed.Simulation
