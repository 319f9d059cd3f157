import EventFeed.Proofs.Dispatch.Subscriptions

/-! # What comes in on a connection

A session reads what has come in on its connection first come, first served: nothing that has come
in is lost or read twice, and nothing overtakes.
-/

namespace EventFeed.Simulation

namespace World

variable (w : World) (n : Nat)

/-- What a session is at. -/
def activity? (epoch : UInt64) : Option Activity := (w.task? epoch).map Task.activity

/-- What comes in on a connection when a session goes on: one that is accepted may hold something
from the start. -/
def bringsIn : Activity → List Inbound
  | .answering script _ =>
    if script.answer = .accept ∧ w.links.length = n then script.items else []
  | _ => []

/-- What the session of an epoch reads from a connection when it goes on. -/
def takesOut (epoch : UInt64) : Activity → List Inbound
  | .serving k h =>
    match h.turn w.now (w.lifecycle.isStopped epoch) (w.inbox k) with
    | .read item _ => if k = n then [item] else []
    | _ => []
  | _ => []

/-- What comes in on a connection when a call goes on: what the far side sends, or what comes with
the connection. -/
def arrivals : Option Call → List Inbound
  | some (.actions (.send item link :: _)) =>
    if link.getD (w.links.length - 1) = n ∧ (w.receive item n).1 then [item] else []
  | some (.session epoch) => ((w.activity? epoch).map (w.bringsIn n)).getD []
  | _ => []

/-- What is read from a connection when a call goes on. -/
def readings : Option Call → List Inbound
  | some (.session epoch) => ((w.activity? epoch).map (w.takesOut n epoch)).getD []
  | _ => []

section Step

variable {w : World} {n : Nat}

theorem lt_length_of_inbox (h : w.inbox n ≠ []) : n < w.inboxes.length := by
  by_contra hnone
  refine h ?_
  rw [inbox, List.getElem?_eq_none (Nat.le_of_not_lt hnone), Option.getD_none]

theorem inbox_congr {w' : World} (h : w'.holdings.inboxes = w.inboxes) :
    w'.inbox n = w.inbox n := by
  rw [inbox, ← inboxes_holdings, h]
  rfl

/-- What is sent on a connection that takes it comes last. -/
theorem inboxesReceived_inbox (item : Inbound) (k : Nat) :
    (w.inboxesReceived item k)[n]?.getD [] =
      w.inbox n ++ if k = n ∧ (w.receive item n).1 then [item] else [] := by
  unfold inboxesReceived
  by_cases hk : k = n
  · subst hk
    cases haccepted : (w.receive item k).1 with
    | false => simp [inbox]
    | true =>
        have hlength : k < w.inboxes.length := by
          rw [inboxes, List.length_map]
          by_contra hnone
          have hlink : w.link? k = none := List.getElem?_eq_none (Nat.le_of_not_lt hnone)
          simp [receive, hlink] at haccepted
        simp [inbox, hlength]
  · split <;> simp [inbox, hk]

/-- A session reads what is first, and a connection comes with what it holds from the start. -/
theorem inboxesAfter_inbox (epoch : UInt64) (a : Activity) :
    w.inbox n ++ w.bringsIn n a =
      w.takesOut n epoch a ++ (w.inboxesAfter epoch a)[n]?.getD [] := by
  have hsame : w.inbox n ++ [] = [] ++ w.inboxes[n]?.getD [] := List.append_nil _
  cases a with
  | answering script limit =>
      simp only [bringsIn, takesOut, inboxesAfter]
      cases hanswer : script.answer with
      | accept =>
          have hlength : w.inboxes.length = w.links.length := List.length_map _
          rcases Nat.lt_trichotomy n w.links.length with hlt | rfl | hlt
          · simp [inbox, hlength, hlt, List.getElem?_append, Nat.ne_of_gt hlt]
          · simp [inbox, hlength]
          · have hle : (w.inboxes ++ [script.items]).length ≤ n := by
              rw [List.length_append, hlength]
              exact hlt
            simp [inbox, hlength, Nat.le_of_lt hlt, Nat.ne_of_lt hlt, List.getElem?_eq_none hle]
      | refuse message => simpa using hsame
      | hang => simpa using hsame
  | serving k h =>
      simp only [bringsIn, takesOut, inboxesAfter]
      cases hturn : h.turn w.now (w.lifecycle.isStopped epoch) (w.inbox k) with
      | read item rest =>
          have hinbox := Heartbeat.inbox_of_turn hturn
          by_cases hk : k = n
          · subst hk
            have hlength : k < w.inboxes.length :=
              lt_length_of_inbox (hinbox ▸ List.cons_ne_nil item rest)
            simp [hinbox, hlength]
          · simp [inbox, hk]
      | _ => exact hsame
  | _ => exact hsame

/-- Whoever goes on, what has come in on a connection has been read or waits to be read. -/
theorem step_inbox (t : Thread) :
    w.inbox n ++ w.arrivals n t.calls.head? =
      w.readings n t.calls.head? ++ (w.step t).1.inbox n := by
  -- for most calls nothing comes in and nothing is read
  have hquiet : ∀ {w' : World}, w'.holdings.inboxes = w.inboxes →
      w.inbox n ++ [] = [] ++ w'.inbox n := fun h => by
    rw [inbox_congr h, List.append_nil, List.nil_append]
  obtain ⟨calls, value⟩ := t
  cases calls with
  | nil => exact hquiet rfl
  | cons c calls =>
      cases htouches : c.touches with
      | false =>
          have harrivals : w.arrivals n (some c) = [] := by
            cases c with
            | actions list =>
                cases list with
                | nil => rfl
                | cons => cases htouches
            | session => cases htouches
            | _ => rfl
          have hreadings : w.readings n (some c) = [] := by
            cases c with
            | session => cases htouches
            | _ => rfl
          rw [List.head?_cons, harrivals, hreadings]
          exact hquiet (congrArg Holdings.inboxes (w.step_holdings htouches))
      | true =>
          cases c with
          | actions list =>
              cases list with
              | nil => cases htouches
              | cons a rest =>
                  have hperform := congrArg Holdings.inboxes (w.perform_holdings a)
                  cases a with
                  | send item link =>
                      refine (inboxesReceived_inbox item _).symm.trans ?_
                      exact congrArg (fun boxes : List (List Inbound) => boxes[n]?.getD [])
                        hperform.symm
                  | _ => exact hquiet hperform
          | handlers e list o =>
              cases list with
              | nil => cases htouches
              | cons h rest =>
                  obtain ⟨_, hkept⟩ := w.callHandler_holdings e h
                  exact hquiet (congrArg Holdings.inboxes hkept)
          | observer o next =>
              obtain ⟨_, hkept⟩ := w.callObserver_holdings next o
              exact hquiet (congrArg Holdings.inboxes hkept)
          | session epoch =>
              have hrun := congrArg Holdings.inboxes (w.runSession_holdings epoch value calls)
              have hinbox := congrArg (fun boxes : List (List Inbound) => boxes[n]?.getD []) hrun
              simp only [List.head?_cons, arrivals, readings, activity?]
              cases htask : w.task? epoch with
              | none =>
                  rw [htask] at hrun
                  exact hquiet hrun
              | some task =>
                  rw [htask] at hinbox
                  refine (inboxesAfter_inbox epoch task.activity).trans ?_
                  exact congrArg _ hinbox.symm
          | _ => cases htouches

end Step

end World

/-! ## Runs -/

namespace Pool

/-- What comes in on a connection with a move. -/
def arrived (n : Nat) (p : Pool) (m : Move) : List Inbound := p.world.arrivals n (p.call? m)

/-- What is read from a connection with a move. -/
def read (n : Nat) (p : Pool) (m : Move) : List Inbound := p.world.readings n (p.call? m)

variable {p : Pool} {n : Nat}

theorem move_inbox (m : Move) :
    p.world.inbox n ++ p.arrived n m = p.read n m ++ (p.move m).world.inbox n := by
  rcases World.holdings_overlooks.move p m with ⟨hcall, hmove⟩ | ⟨t, _, hcall, hmove⟩
  · rw [arrived, read, hcall, World.inbox_congr (congrArg Holdings.inboxes hmove)]
    exact List.append_nil _
  · rw [arrived, read, hcall, hmove]
    exact World.step_inbox t

/-- What has come in on a connection, and what was there before, has been read in this order as far
as it has been read, and the rest waits to be read. -/
theorem run_inbox (moves : List Move) :
    p.world.inbox n ++ p.trace (arrived n) moves =
      p.trace (read n) moves ++ (p.run moves).world.inbox n := by
  induction moves using List.reverseRecOn with
  | nil => exact List.append_nil _
  | append_singleton moves m ih =>
      rw [trace_concat, trace_concat, run_concat, ← List.append_assoc, ih, List.append_assoc,
        move_inbox, List.append_assoc]

end Pool

end EventFeed.Simulation
