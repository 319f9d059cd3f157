import EventFeed.Proofs.Serving.Custody

/-! # The frames of a connection

What goes out on a connection are heartbeats, and a close frame at the end if the session takes
leave. A connection that is given up as lost is sent no close frame.
-/

namespace EventFeed.Simulation

/-- Heartbeats, and then perhaps a close frame. -/
def InOrder (frames : List Outbound) : Prop :=
  ∃ pings closes, frames = pings ++ closes ∧ (∀ frame ∈ pings, ∃ time, frame = .ping time) ∧
    (closes = [] ∨ closes = [.close])

theorem inOrder_nil : InOrder [] := ⟨[], [], rfl, List.forall_mem_nil _, .inl rfl⟩

/-- As long as there is no close frame, any frame may come next. -/
theorem InOrder.concat {frames : List Outbound} (h : InOrder frames) (hclose : .close ∉ frames)
    (frame : Outbound) : InOrder (frames ++ [frame]) := by
  obtain ⟨pings, closes, rfl, hpings, rfl | rfl⟩ := h
  · rw [List.append_nil] at hclose ⊢
    cases frame with
    | close => exact ⟨pings, [.close], rfl, hpings, .inr rfl⟩
    | ping time =>
        refine ⟨pings ++ [.ping time], [], (List.append_nil _).symm, ?_, .inl rfl⟩
        exact List.forall_mem_append.mpr ⟨hpings, by simp⟩
  · simp at hclose

namespace World

variable {w w' : World} {epoch : UInt64} {n : Nat} {call : Option Call} {begun : List Outbound}

/-- A connection takes a heartbeat from a session that uses it, and a close frame from one that
takes leave of it. -/
theorem completes_cases (w : World) (n : Nat) (a : Activity) :
    w.completes n a = [] ∨
      w.completes n a = [.ping w.now] ∧ a.link? = some n ∧ a.isLeaving = false ∨
      w.completes n a = [.close] ∧ ∃ requested sending, a = .closing n requested sending := by
  cases a with
  | pinging k h sending limit =>
      cases sending with
      | ends time =>
          simp only [completes]
          split
          · next hk => exact .inr (.inl ⟨rfl, congrArg some hk.1, rfl⟩)
          · exact .inl rfl
      | _ => exact .inl rfl
  | closing k requested sending =>
      cases sending with
      | ends time =>
          simp only [completes]
          split
          · next hk => exact .inr (.inr ⟨rfl, requested, _, by rw [hk.1]⟩)
          · exact .inl rfl
      | _ => exact .inl rfl
  | _ => exact .inl rfl

/-- A session sends nothing on a connection that it does not have. -/
theorem idle_of_link_ne {a : Activity} (epoch : UInt64) (h : a.link? ≠ some n) :
    w.begins n epoch a = [] ∧ w.completes n a = [] := by
  refine ⟨(w.begins_cases n epoch a).resolve_right fun hsome => h hsome.2.1, ?_⟩
  rcases w.completes_cases n a with hnone | ⟨_, hlink, _⟩ | ⟨_, _, _, rfl⟩
  · exact hnone
  · exact absurd hlink h
  · exact absurd rfl h

/-- Only a session that is closing its connection sends a close frame. -/
theorem closing_of_completes {a : Activity} (h : .close ∈ w.completes n a) :
    ∃ requested sending, a = .closing n requested sending := by
  rcases w.completes_cases n a with hnone | ⟨hping, _⟩ | ⟨_, hclosing⟩
  · rw [hnone] at h
    cases h
  · rw [hping, List.mem_singleton] at h
    cases h
  · exact hclosing

/-- How a connection has been used, given the frames that have been started to be sent on it. -/
structure Conduct (w : World) (n : Nat) (begun : List Outbound) : Prop where
  ordered : InOrder begun
  taken : InOrder (w.outgoing n).sent
  counted : (w.outgoing n).started = begun.length
  unopened : (w.outgoing n).opened ≤ n → begun = [] ∧ (w.outgoing n).sent = []
  /-- Whoever has it is taking leave when the close frame has been started, and not before. -/
  leaving : ∀ post ∈ w.posts, post.2.link? = some n →
    (post.2.isLeaving = true ↔ .close ∈ begun)
  /-- When the close frame has gone out, nothing is left but to hang up. -/
  final : .close ∈ (w.outgoing n).sent → .close ∈ begun ∧
    ∀ post ∈ w.posts, post.2.link? = some n → ∃ requested, post.2 = .hangingUp n requested

theorem Conduct.start (scenario : Scenario) (opens : List OpenScript) (n : Nat) :
    (World.start scenario opens).Conduct n [] where
  ordered := inOrder_nil
  taken := inOrder_nil
  counted := rfl
  unopened := fun _ => ⟨rfl, rfl⟩
  leaving := fun _ h => absurd h List.not_mem_nil
  final := fun h => absurd h List.not_mem_nil

/-- Nobody takes the connection, and nothing is sent on it. -/
theorem Conduct.of_holders (h : w.Conduct n begun)
    (hposts : ∀ post ∈ w'.posts, post ∈ w.posts ∨ post.2.link? = none)
    (hout : w'.outgoing n = w.outgoing n) : w'.Conduct n begun := by
  have hold : ∀ post ∈ w'.posts, post.2.link? = some n → post ∈ w.posts :=
    fun post hpost hlink => (hposts post hpost).resolve_right fun hnone => by
      rw [hlink] at hnone
      cases hnone
  refine ⟨h.ordered, hout ▸ h.taken, hout ▸ h.counted, hout ▸ h.unopened, ?_, ?_⟩
  · exact fun post hpost hlink => h.leaving post (hold post hpost hlink) hlink
  · intro hclose
    rw [hout] at hclose
    obtain ⟨hbegun, hposts⟩ := h.final hclose
    exact ⟨hbegun, fun post hpost hlink => hposts post (hold post hpost hlink) hlink⟩

/-- A session goes on, and perhaps starts to send a frame. -/
theorem Conduct.goes {a b : Activity} (h : w.Conduct n begun) (hcustody : w.Custody)
    (hpost : (epoch, a) ∈ w.posts)
    (hposts : w'.posts = w.posts.map fun post => if post.1 = epoch then (epoch, b) else post)
    (hhands : w.Hands epoch a b) (hout : w'.outgoing n = w.outgoingAfter n epoch a) :
    w'.Conduct n (begun ++ w.begins n epoch a) := by
  have hsent : (w'.outgoing n).sent = (w.outgoing n).sent ++ w.completes n a := by
    rw [hout, outgoingAfter]
  -- if another session has the connection, this one has not
  have hother : ∀ {e c}, (e, c) ∈ w.posts → c.link? = some n → e ≠ epoch → a.link? ≠ some n :=
    fun hold hlink hne ha => hne (hcustody.alone hold hpost hlink ha).1
  refine ⟨?_, ?_, ?_, fun hle => ?_, ?_, fun hclose => ?_⟩
  · -- a frame is started only before the session takes leave
    rcases w.begins_cases n epoch a with hnone | ⟨⟨frame, hframe⟩, hlink, hstays⟩
    · rw [hnone, List.append_nil]
      exact h.ordered
    · rw [hframe]
      refine h.ordered.concat (fun hclose => ?_) frame
      rw [(h.leaving _ hpost hlink).mpr hclose] at hstays
      cases hstays
  · -- a frame goes out only as long as no close frame has
    rw [hsent]
    rcases w.completes_cases n a with
      hnone | ⟨hping, hlink, hstays⟩ | ⟨hclose, requested, sending, rfl⟩
    · rw [hnone, List.append_nil]
      exact h.taken
    · rw [hping]
      refine h.taken.concat (fun hclose => ?_) _
      obtain ⟨requested, rfl⟩ := (h.final hclose).2 _ hpost hlink
      cases hstays
    · rw [hclose]
      refine h.taken.concat (fun hclose => ?_) _
      obtain ⟨requested, heq⟩ := (h.final hclose).2 _ hpost rfl
      cases heq
  · rw [hout, outgoingAfter, h.counted, List.length_append]
  · have hle' : (w.outgoing n).opened ≤ n := by
      rw [hout, outgoingAfter] at hle
      exact Nat.le_trans (Nat.le_add_right _ _) hle
    have hnot : a.link? ≠ some n := fun ha =>
      absurd (hcustody.opened hpost ha) (Nat.not_lt.mpr hle')
    obtain ⟨hnone, hnosent⟩ := h.unopened hle'
    obtain ⟨hbegins, hcompletes⟩ := idle_of_link_ne epoch hnot
    rw [hsent, hnone, hnosent, hbegins, hcompletes]
    exact ⟨rfl, rfl⟩
  · rintro ⟨e, c⟩ hpost' hlink
    rw [hposts] at hpost'
    rw [List.mem_append]
    rcases mem_posts_map hpost' with ⟨rfl, rfl⟩ | ⟨hne, hold⟩
    · rcases hhands.kept hlink with ha | ⟨rfl, _, hnone, hstays⟩
      · rw [hhands.leaving_iff ha hlink, h.leaving _ hpost ha]
      · have hnot : a.link? ≠ some w.links.length := by simp [hnone]
        simp [hstays, (h.unopened (Nat.le_refl _)).1, (idle_of_link_ne e hnot).1]
    · rw [(idle_of_link_ne epoch (hother hold hlink hne)).1]
      simpa using h.leaving _ hold hlink
  · rw [hsent] at hclose
    rcases List.mem_append.mp hclose with hclose | hclose
    · obtain ⟨hbegun, hhanging⟩ := h.final hclose
      refine ⟨List.mem_append_left _ hbegun, ?_⟩
      rintro ⟨e, c⟩ hpost' hlink
      rw [hposts] at hpost'
      rcases mem_posts_map hpost' with ⟨rfl, rfl⟩ | ⟨_, hold⟩
      · rcases hhands.kept hlink with ha | ⟨rfl, _⟩
        · obtain ⟨requested, rfl⟩ := hhanging _ hpost ha
          rw [hhands.of_hangingUp] at hlink
          cases hlink
        · rw [(h.unopened (Nat.le_refl _)).2] at hclose
          cases hclose
      · exact hhanging _ hold hlink
    · obtain ⟨requested, sending, rfl⟩ := closing_of_completes hclose
      refine ⟨List.mem_append_left _ ((h.leaving _ hpost rfl).mp rfl), ?_⟩
      rintro ⟨e, c⟩ hpost' hlink
      rw [hposts] at hpost'
      rcases mem_posts_map hpost' with ⟨rfl, rfl⟩ | ⟨hne, hold⟩
      · rcases hhands.of_completes (List.ne_nil_of_mem hclose) with hnone | rfl
        · rw [hnone] at hlink
          cases hlink
        · exact ⟨requested, rfl⟩
      · exact absurd rfl (hother hold hlink hne)

theorem Uses.conduct (h : w.Uses call w') (hcustody : w.Custody) (hconduct : w.Conduct n begun) :
    w'.Conduct n (begun ++ w.beginnings n call) := by
  cases h with
  | idle hnone hposts hout =>
      rw [hnone, List.append_nil]
      exact hconduct.of_holders hposts (hout n)
  | @goes epoch a b hcall hpost hbegins hposts hhands hout =>
      rw [hbegins]
      exact hconduct.goes hcustody hpost hposts hhands (hout n)
  | ends _ _ hbegins hposts hnone hout =>
      rw [hbegins, hnone, List.append_nil]
      refine hconduct.of_holders (fun post hpost => .inl ?_) (hout n)
      exact (List.mem_filter.mp (hposts ▸ hpost)).1

/-! ## Lost connections -/

/-- Nobody has the connection any more, or whoever has it is giving it up as lost. -/
structure Lost (w : World) (n : Nat) : Prop where
  opened : n < w.links.length
  losing : ∀ post ∈ w.posts, post.2.link? = some n → ∃ loss, post.2 = .losing n loss

theorem Custody.lost {loss : Loss} (h : w.Custody) (hpost : (epoch, .losing n loss) ∈ w.posts) :
    w.Lost n := by
  refine ⟨h.opened hpost rfl, fun post hpost' hlink => ⟨loss, ?_⟩⟩
  exact (h.alone hpost' hpost hlink rfl).2

theorem Lost.of_holders (h : w.Lost n)
    (hposts : ∀ post ∈ w'.posts, post ∈ w.posts ∨ post.2.link? = none)
    (hout : w'.outgoing n = w.outgoing n) : w'.Lost n := by
  have hopened := congrArg Outgoing.opened hout
  refine ⟨Nat.lt_of_lt_of_eq h.opened hopened.symm, fun post hpost hlink => ?_⟩
  rcases hposts post hpost with hold | hnone
  · exact h.losing post hold hlink
  · rw [hnone] at hlink
    cases hlink

/-- Nothing is sent on a connection that has been lost. -/
theorem Uses.lost (h : w.Uses call w') (hlost : w.Lost n) :
    w'.Lost n ∧ w.beginnings n call = [] := by
  cases h with
  | idle hnone hposts hout => exact ⟨hlost.of_holders hposts (hout n), hnone n⟩
  | @goes epoch a b hcall hpost hbegins hposts hhands hout =>
      have hopened := congrArg Outgoing.opened (hout n)
      refine ⟨⟨?_, fun post hpost' hlink => ?_⟩, ?_⟩
      · exact Nat.lt_of_lt_of_eq (Nat.lt_add_right a.opens hlost.opened) hopened.symm
      · rw [hposts] at hpost'
        obtain ⟨e, c⟩ := post
        rcases mem_posts_map hpost' with ⟨rfl, rfl⟩ | ⟨_, hold⟩
        · rcases hhands.kept hlink with ha | ⟨rfl, _⟩
          · obtain ⟨loss, rfl⟩ := hlost.losing _ hpost ha
            rw [hhands.of_losing] at hlink
            cases hlink
          · exact absurd hlost.opened (Nat.lt_irrefl _)
        · exact hlost.losing _ hold hlink
      · rw [hbegins]
        rcases w.begins_cases n epoch a with hnone | ⟨_, hlink, _⟩
        · exact hnone
        · obtain ⟨loss, rfl⟩ := hlost.losing _ hpost hlink
          rfl
  | ends _ _ hbegins hposts hnone hout =>
      refine ⟨hlost.of_holders (fun post hpost => .inl ?_) (hout n), by rw [hbegins, hnone]⟩
      exact (List.mem_filter.mp (hposts ▸ hpost)).1

end World

namespace Pool

variable {p : Pool} {n : Nat} {begun₀ : List Outbound}

theorem run_conduct (moves : List Move) (hshape : p.Shaped) (hcustody : p.world.Custody)
    (hconduct : p.world.Conduct n begun₀) :
    (p.run moves).world.Conduct n (begun₀ ++ p.trace (begun n) moves) := by
  induction moves using List.reverseRecOn with
  | nil => simpa using hconduct
  | append_singleton moves m ih =>
      have hrun := run_custody moves hshape hcustody
      rw [run_concat, trace_concat, ← List.append_assoc]
      exact (move_uses (run_shaped moves hshape) hrun).conduct hrun ih

theorem run_lost (moves : List Move) (hshape : p.Shaped) (hcustody : p.world.Custody)
    (hlost : p.world.Lost n) :
    (p.run moves).world.Lost n ∧ p.trace (begun n) moves = [] := by
  induction moves using List.reverseRecOn with
  | nil => exact ⟨hlost, rfl⟩
  | append_singleton moves m ih =>
      have huses := move_uses (m := m) (run_shaped moves hshape) (run_custody moves hshape hcustody)
      obtain ⟨hnext, hnone⟩ := huses.lost ih.1
      rw [run_concat, trace_concat, ih.2]
      exact ⟨hnext, hnone⟩

end Pool

end EventFeed.Simulation
