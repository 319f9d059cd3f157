import EventFeed.Proofs.Serving.Outgoing

/-! # Who holds a connection

A connection belongs to the session that has opened it, from the moment it is accepted until the
session lets go of it, and to nobody afterwards. As long as a session has it, it either uses it or
is taking leave of it, and whoever takes leave does not turn back.
-/

namespace EventFeed.Simulation

/-- The session is taking leave of its connection. -/
def Activity.isLeaving : Activity → Bool
  | closing .. | hangingUp .. => true
  | _ => false

/-- What becomes of the connection of a session when the session goes from one activity to another.
-/
inductive World.Hands (w : World) (epoch : UInt64) : Activity → Activity → Prop
  /-- It holds none afterwards. -/
  | free {a b : Activity} : b.link? = none → Hands w epoch a b
  | accept {script : OpenScript} {limit : Nat} : script.answer = .accept →
      Hands w epoch (.answering script limit) (.accepted w.links.length)
  | use {a b : Activity} {n : Nat} : a.link? = some n → b.link? = some n → a.isLeaving = false →
      b.isLeaving = false → (∀ loss, a ≠ .losing n loss) → (∀ k, .close ∉ w.begins k epoch a) →
      Hands w epoch a b
  /-- It begins to take leave. -/
  | leave {a : Activity} {n : Nat} {requested : Bool} {sending : Sending} : a.link? = some n →
      a.isLeaving = false → w.begins n epoch a = [.close] →
      Hands w epoch a (.closing n requested sending)
  | closing {n : Nat} {requested : Bool} {sending : Sending} :
      (∀ k, w.completes k (.closing n requested sending) = []) →
      Hands w epoch (.closing n requested sending) (.closing n requested sending)
  | closed {n : Nat} {requested : Bool} {sending : Sending} :
      Hands w epoch (.closing n requested sending) (.hangingUp n requested)

namespace World

variable {w w' : World} {epoch : UInt64} {n : Nat}

/-! ## A step of a session -/

/-- A session sends one frame at a time, only on the connection that it holds, and before it takes
leave of it. -/
theorem begins_cases (w : World) (n : Nat) (epoch : UInt64) (a : Activity) :
    w.begins n epoch a = [] ∨
      (∃ frame, w.begins n epoch a = [frame]) ∧ a.link? = some n ∧ a.isLeaving = false := by
  cases a with
  | serving k heartbeat =>
      simp only [begins]
      split
      · split
        · next hk => exact .inr ⟨⟨_, rfl⟩, congrArg some hk, rfl⟩
        · exact .inl rfl
      · split
        · next hk => exact .inr ⟨⟨_, rfl⟩, congrArg some hk, rfl⟩
        · exact .inl rfl
      · exact .inl rfl
  | accepted k =>
      simp only [begins]
      split
      · next hk => exact .inr ⟨⟨_, rfl⟩, congrArg some hk.1, rfl⟩
      · exact .inl rfl
  | _ => exact .inl rfl

theorem stepSession_hands {s : Session} {a b : Activity} {value : Value}
    (hb : (w.stepSession s a value).2.2.activity? = some b) : w.Hands s.epoch a b := by
  have huse : ∀ {k}, a.link? = some k → b.link? = some k → a.isLeaving = false →
      b.isLeaving = false → (∀ loss, a ≠ .losing k loss) → (∀ k, w.begins k s.epoch a = []) →
      w.Hands s.epoch a b :=
    fun ha hb' hstays hstays' hlosing hbegins =>
      .use ha hb' hstays hstays' hlosing fun k => by rw [hbegins]; exact List.not_mem_nil
  have hcomes := w.stepSession_comes s a value
  generalize w.stepSession s a value = r at hcomes hb
  cases hcomes with
  | accept haccept =>
      obtain rfl := Option.some.inj hb
      exact .accept haccept
  | connect hl =>
      obtain rfl := Option.some.inj hb
      have hepoch : w.lifecycle.epoch = s.epoch := (Lifecycle.advance?_eq_some.mp hl).1
      exact huse rfl rfl rfl rfl (by simp) fun k => by simp [begins, hepoch]
  | tooLateToConnect hlate =>
      obtain rfl := Option.some.inj hb
      exact .leave rfl rfl (by simp [begins, hlate])
  | stop hturn =>
      obtain rfl := Option.some.inj hb
      exact .leave rfl rfl (by simp [begins, hturn])
  | lapse hturn | deliver hturn | acknowledge hturn | overhear hturn | drop hturn | cutOff hturn
  | idle hturn =>
      obtain rfl := Option.some.inj hb
      exact huse rfl rfl rfl rfl (by simp) fun k => by simp [begins, hturn]
  | probe hturn =>
      obtain rfl := Option.some.inj hb
      refine .use rfl rfl rfl rfl (by simp) fun k => ?_
      simp only [begins, hturn]
      split <;> simp
  | greet | serveOn | pinged | failPing | giveUpPing | awaitPing =>
      obtain rfl := Option.some.inj hb
      exact huse rfl rfl rfl rfl (by simp) fun _ => rfl
  | closed | failClose =>
      obtain rfl := Option.some.inj hb
      exact .closed
  | awaitClose hresult =>
      obtain rfl := Option.some.inj hb
      refine .closing fun k => completes_eq_nil ?_
      rintro sending ⟨⟩
      simp [hresult]
  | _ => cases hb <;> exact .free rfl

namespace Hands

variable {a b : Activity}

/-- The connection that a session has afterwards is new, or it has had it before. -/
theorem kept (h : w.Hands epoch a b) (hb : b.link? = some n) : a.link? = some n ∨
    n = w.links.length ∧ a.opens = 1 ∧ a.link? = none ∧ b.isLeaving = false := by
  have hsame : ∀ {k}, a.link? = some k → b.link? = some k → a.link? = some n :=
    fun hk hk' => hk.trans (hk'.symm.trans hb)
  cases h with
  | free hnone => rw [hnone] at hb; cases hb
  | accept haccept =>
      exact .inr ⟨(Option.some.inj hb).symm, by simp [Activity.opens, haccept], rfl, rfl⟩
  | use hk hk' => exact .inl (hsame hk hk')
  | leave hk => exact .inl (hsame hk rfl)
  | closing | closed => exact .inl hb

/-- Who comes by a connection has just opened it. -/
theorem accepted (h : w.Hands epoch a b) (ha : a.link? = none) (hb : b.link? = some n) :
    n = w.links.length ∧ b = .accepted n := by
  cases h with
  | free hnone => rw [hnone] at hb; cases hb
  | accept =>
      obtain rfl := Option.some.inj hb
      exact ⟨rfl, rfl⟩
  | use hk => rw [ha] at hk; cases hk
  | leave hk => rw [ha] at hk; cases hk
  | closing => cases ha
  | closed => cases ha

/-- A session takes leave of a connection that it has from when it starts to send a close frame. -/
theorem leaving_iff (h : w.Hands epoch a b) (ha : a.link? = some n) (hb : b.link? = some n) :
    b.isLeaving = true ↔ a.isLeaving = true ∨ .close ∈ w.begins n epoch a := by
  cases h with
  | free hnone => rw [hnone] at hb; cases hb
  | accept => cases ha
  | use _ _ hstays hstays' _ hnone => simp [hstays, hstays', hnone]
  | leave hk _ hleave =>
      obtain rfl := Option.some.inj hb
      simp [Activity.isLeaving, hleave]
  | closing | closed => simp [Activity.isLeaving]

/-- Who gives a connection up as lost lets go of it. -/
theorem of_losing {loss : Loss} (h : w.Hands epoch (.losing n loss) b) : b.link? = none := by
  cases h with
  | free hnone => exact hnone
  | use hk _ _ _ hnot =>
      obtain rfl := Option.some.inj hk
      exact absurd rfl (hnot loss)
  | leave _ _ hleave => cases hleave

theorem of_hangingUp {requested : Bool} (h : w.Hands epoch (.hangingUp n requested) b) :
    b.link? = none := by
  cases h with
  | free hnone => exact hnone
  | use _ _ hstays => cases hstays
  | leave _ hstays => cases hstays

/-- When the close frame has gone out, nothing is left but to hang up. -/
theorem of_completes {requested : Bool} {sending : Sending}
    (h : w.Hands epoch (.closing n requested sending) b)
    (hcompletes : w.completes n (.closing n requested sending) ≠ []) :
    b.link? = none ∨ b = .hangingUp n requested := by
  cases h with
  | free hnone => exact .inl hnone
  | use _ _ hstays => cases hstays
  | leave _ hstays => cases hstays
  | closing hwaits => exact absurd (hwaits n) hcompletes
  | closed => exact .inr rfl

end Hands

/-! ## Custody -/

/-- A connection that somebody has is one that has been opened, and nobody else has it. -/
structure Custody (w : World) : Prop where
  alone : ∀ {e e' a a' n}, (e, a) ∈ w.posts → (e', a') ∈ w.posts → a.link? = some n →
    a'.link? = some n → e = e' ∧ a = a'
  opened : ∀ {e a n}, (e, a) ∈ w.posts → a.link? = some n → n < w.links.length

theorem Custody.start (scenario : Scenario) (opens : List OpenScript) :
    (World.start scenario opens).Custody where
  alone := fun h => absurd h List.not_mem_nil
  opened := fun h => absurd h List.not_mem_nil

/-- The sessions that have a connection have it still, if they are there. -/
theorem Custody.of_holders (h : w.Custody)
    (hposts : ∀ post ∈ w'.posts, post ∈ w.posts ∨ post.2.link? = none)
    (hlinks : w'.links.length = w.links.length) : w'.Custody := by
  have hold : ∀ {e a n}, (e, a) ∈ w'.posts → a.link? = some n → (e, a) ∈ w.posts :=
    fun hpost hlink => (hposts _ hpost).resolve_right fun hnone => by
      rw [hlink] at hnone
      cases hnone
  refine ⟨fun hpost hpost' hlink hlink' => ?_, fun hpost hlink => ?_⟩
  · exact h.alone (hold hpost hlink) (hold hpost' hlink') hlink hlink'
  · exact hlinks ▸ h.opened (hold hpost hlink) hlink

/-- The post of a session that goes on, and those of the others. -/
theorem mem_posts_map {posts : List (UInt64 × Activity)} {e : UInt64} {a b : Activity}
    (h : (e, a) ∈ posts.map fun post => if post.1 = epoch then (epoch, b) else post) :
    (e = epoch ∧ a = b) ∨ (e ≠ epoch ∧ (e, a) ∈ posts) := by
  obtain ⟨post, hpost, heq⟩ := List.mem_map.mp h
  split at heq
  · next => exact .inl ⟨(Prod.mk.inj heq).1.symm, (Prod.mk.inj heq).2.symm⟩
  · next hne => subst heq; exact .inr ⟨hne, hpost⟩

/-- A session keeps what it has, takes what is new, or lets go. -/
theorem Custody.hands {a b : Activity} (h : w.Custody) (hpost : (epoch, a) ∈ w.posts)
    (hposts : w'.posts = w.posts.map fun post => if post.1 = epoch then (epoch, b) else post)
    (hhands : w.Hands epoch a b) (hlinks : w'.links.length = w.links.length + a.opens) :
    w'.Custody := by
  have hown : ∀ {n}, b.link? = some n → n < w.links.length + a.opens := by
    intro n hn
    rcases hhands.kept hn with hlink | ⟨rfl, hopens, _⟩
    · exact Nat.lt_add_right _ (h.opened hpost hlink)
    · rw [hopens]
      exact Nat.lt_succ_self _
  -- nobody else has it
  have hothers : ∀ {e a' n}, (e, a') ∈ w.posts → a'.link? = some n → b.link? = some n →
      e = epoch := by
    intro e a' n hpost' hlink' hn
    rcases hhands.kept hn with hlink | ⟨rfl, _⟩
    · exact (h.alone hpost' hpost hlink' hlink).1
    · exact absurd (h.opened hpost' hlink') (Nat.lt_irrefl _)
  refine ⟨fun {e e' a₁ a₂ n} h₁ h₂ hlink₁ hlink₂ => ?_, fun {e a₁ n} h₁ hlink₁ => ?_⟩
  · rw [hposts] at h₁ h₂
    rcases mem_posts_map h₁ with ⟨rfl, rfl⟩ | ⟨hne₁, hold₁⟩
    · rcases mem_posts_map h₂ with ⟨rfl, rfl⟩ | ⟨hne₂, hold₂⟩
      · exact ⟨rfl, rfl⟩
      · exact absurd (hothers hold₂ hlink₂ hlink₁) hne₂
    · rcases mem_posts_map h₂ with ⟨rfl, rfl⟩ | ⟨_, hold₂⟩
      · exact absurd (hothers hold₁ hlink₁ hlink₂) hne₁
      · exact h.alone hold₁ hold₂ hlink₁ hlink₂
  · rw [hposts] at h₁
    rw [hlinks]
    rcases mem_posts_map h₁ with ⟨rfl, rfl⟩ | ⟨_, hold₁⟩
    · exact hown hlink₁
    · exact Nat.lt_add_right _ (h.opened hold₁ hlink₁)

/-! ## Steps -/

/-- The frames that are started to be sent on a connection when a call goes on. -/
def beginnings (w : World) (n : Nat) : Option Call → List Outbound
  | some (.session epoch) => ((w.activity? epoch).map (w.begins n epoch)).getD []
  | _ => []

/-- What a move can do with the connections, by the call that goes on with it. -/
inductive Uses (w : World) (call : Option Call) (w' : World) : Prop
  /-- Nothing is sent, and nobody takes a connection. -/
  | idle : (∀ n, w.beginnings n call = []) →
      (∀ post ∈ w'.posts, post ∈ w.posts ∨ post.2.link? = none) →
      (∀ n, w'.outgoing n = w.outgoing n) → Uses w call w'
  | goes {epoch : UInt64} {a b : Activity} : call = some (.session epoch) →
      (epoch, a) ∈ w.posts → (∀ n, w.beginnings n call = w.begins n epoch a) →
      (w'.posts = w.posts.map fun post => if post.1 = epoch then (epoch, b) else post) →
      w.Hands epoch a b → (∀ n, w'.outgoing n = w.outgoingAfter n epoch a) → Uses w call w'
  | ends {epoch : UInt64} {a : Activity} : call = some (.session epoch) →
      (epoch, a) ∈ w.posts → (∀ n, w.beginnings n call = w.begins n epoch a) →
      (w'.posts = w.posts.filter fun post => post.1 != epoch) → (∀ n, w.begins n epoch a = []) →
      (∀ n, w'.outgoing n = w.outgoing n) → Uses w call w'

/-- A session that ends sends nothing any more. -/
theorem quiet_of_finish {s s' : Session} {a : Activity} {value : Value} {w₁ : World}
    (hstep : w.stepSession s a value = (w₁, s', .finish)) :
    a.opens = 0 ∧ w.begins n s.epoch a = [] ∧ w.completes n a = [] := by
  have hcomes := w.stepSession_comes s a value
  rw [hstep] at hcomes
  cases hcomes <;> exact ⟨rfl, rfl, rfl⟩

theorem runSession_uses (hcustody : w.Custody) (value : Value) (below : List Call) :
    w.Uses (some (.session epoch)) (w.runSession epoch value below).1 := by
  cases htask : w.task? epoch with
  | none =>
      rw [runSession_absent htask]
      refine .idle (fun n => ?_) (fun post hpost => .inl hpost) fun n => rfl
      simp [beginnings, activity?, htask]
  | some task =>
      have hpost := mem_posts_of_task? htask
      have hbegins : ∀ n, w.beginnings n (some (.session epoch)) =
          w.begins n epoch task.activity := fun n => by simp [beginnings, activity?, htask]
      have hout := fun n => @runSession_outgoing w n epoch task htask
        (fun k hk => hcustody.opened hpost hk) value below
      obtain rfl := epoch_of_task? htask
      -- wherever it goes on, what is left is the step itself
      have hgoes : ∀ {w₁ w' : World} {task' : Task} {progress : Progress},
          w.stepSession task.session task.activity value = (w₁, task'.session, progress) →
          progress.activity? = some task'.activity → (w₁.setTask task').SameManager w' →
          (w.runSession task.session.epoch value below).1 = w' →
          w.Uses (some (.session task.session.epoch)) w' := by
        intro w₁ w' task' progress hstep hb hs hrun
        have hactivity : (w.stepSession task.session task.activity value).2.2.activity? =
            some task'.activity := by rw [hstep]; exact hb
        exact .goes rfl hpost hbegins (session_effect htask hstep hs).1
          (stepSession_hands hactivity) (hrun ▸ hout)
      cases hstep : w.stepSession task.session task.activity value with
      | mk w₁ rest =>
        obtain ⟨s, progress⟩ := rest
        cases progress with
        | finish =>
            rw [runSession_finish htask hstep] at hout ⊢
            have hquiet := fun n => @quiet_of_finish w n _ _ _ _ _ hstep
            refine .ends rfl hpost hbegins (finish_effect htask hstep).1
              (fun n => (hquiet n).2.1) fun n => ?_
            obtain ⟨hopens, hb, hc⟩ := hquiet n
            rw [hout n, outgoingAfter_of_idle hopens hb hc]
        | goOn b calls =>
            have hrun := congrArg Prod.fst (runSession_goOn htask hstep below)
            exact hrun ▸ hgoes hstep rfl (.refl _) hrun
        | wait b alarms =>
            obtain ⟨set, hset⟩ := w₁.setAlarms_same ⟨s, b, task.alarms⟩ alarms
            have hrun := congrArg Prod.fst (runSession_wait htask hstep below)
            exact hrun ▸ hgoes hstep rfl hset hrun

/-- A step that is none of a session moves no session to a connection. -/
theorem Does.holders {calls calls' : List Call} (h : w.Does calls w' calls')
    (hcall : ∀ epoch, calls.head? ≠ some (.session epoch)) :
    ∀ post ∈ w'.posts, post ∈ w.posts ∨ post.2.link? = none := by
  have hsame : w'.posts.Sublist w.posts → ∀ post ∈ w'.posts, post ∈ w.posts ∨ post.2.link? = none :=
    fun hposts post hpost => .inl (hposts.subset hpost)
  cases h with
  | plain hs => exact hsame (hs.posts ▸ List.Sublist.refl _)
  | connect hl hs =>
      intro post hpost
      rw [hs.posts, posts, List.map_append] at hpost
      rcases List.mem_append.mp hpost with hpost | hpost
      · exact .inl hpost
      · rw [List.mem_singleton.mp hpost]
        exact .inr rfl
  | disconnect hs => exact hsame (hs.posts ▸ List.Sublist.refl _)
  | take _ hs => exact hsame (hs.posts ▸ List.Sublist.refl _)
  | absent => exact absurd rfl (hcall _)
  | session => exact absurd rfl (hcall _)
  | finish => exact absurd rfl (hcall _)
  | broken => exact hsame (removeTask_posts _ _)
  | _ => exact hsame (List.Sublist.refl _)

theorem Uses.custody {call : Option Call} (h : w.Uses call w') (hcustody : w.Custody) :
    w'.Custody := by
  have hopened : ∀ {k}, (w'.outgoing 0).opened = k → w'.links.length = k := id
  cases h with
  | idle _ hposts hout => exact hcustody.of_holders hposts (hopened (by rw [hout]; rfl))
  | goes _ hpost _ hposts hhands hout =>
      exact hcustody.hands hpost hposts hhands (hopened (by rw [hout]; rfl))
  | ends _ _ _ hposts _ hout =>
      refine hcustody.of_holders (fun post hpost => .inl ?_) (hopened (by rw [hout]; rfl))
      exact (List.mem_filter.mp (hposts ▸ hpost)).1

end World

namespace Pool

/-- The frames that are started to be sent on a connection with a move. -/
def begun (n : Nat) (p : Pool) (m : Move) : List Outbound := p.world.beginnings n (p.call? m)

variable {p : Pool} {m : Move} {moves : List Move}

theorem move_uses (hshape : p.Shaped) (hcustody : p.world.Custody) :
    p.world.Uses (p.call? m) (p.move m).world := by
  by_cases hsession : ∃ epoch, p.call? m = some (.session epoch)
  · obtain ⟨epoch, hcall⟩ := hsession
    obtain ⟨i, value, below, rfl, _, hmove⟩ := exists_of_session hcall
    rw [hcall, hmove]
    exact World.runSession_uses hcustody value below
  · have hcall : ∀ epoch, p.call? m ≠ some (.session epoch) := fun epoch heq =>
      hsession ⟨epoch, heq⟩
    refine .idle (fun n => ?_) ?_ fun n => ?_
    · unfold World.beginnings
      split
      · next heq => exact absurd heq (hcall _)
      · rfl
    · rcases (p.move_moves m hshape).does with ⟨time, _, hw⟩ | ⟨calls, _, hhead, _, hdoes⟩
      · rw [hw, World.ring_posts]
        exact fun post hpost => .inl hpost
      · exact hdoes.holders (hhead ▸ hcall)
    · rcases (World.outgoing_overlooks n).move p m with ⟨_, hmove⟩ | ⟨t, _, hhead, hmove⟩
      · exact hmove
      · rw [hmove]
        exact p.world.step_outgoing (hhead ▸ hcall)

theorem run_custody (moves : List Move) (hshape : p.Shaped) (hcustody : p.world.Custody) :
    (p.run moves).world.Custody :=
  run_keeps_of_move (fun _ _ hshape h => (move_uses hshape h).custody h) moves hshape hcustody

end Pool

end EventFeed.Simulation
