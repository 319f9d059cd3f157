import EventFeed.Proofs.Isolation.Inputs
import Mathlib.Data.List.Forall2

/-! # Schedules

From outside, a connection is given batches: the clock moves on, items come in, requests are made.
After each batch the session goes on until it can only wait. Two runs with matching batches show the
same of the connection, whatever else happens in them.
-/

namespace EventFeed.Simulation

namespace Pool

/-- What comes from outside with a move. -/
def brought (p : Pool) : Move → List Input
  | .tick time => [.tick time]
  | m => (p.performed m).filterMap Action.input?

/-- The session that takes a step with a move. -/
def polled (p : Pool) (m : Move) : List UInt64 :=
  match p.call? m with
  | some (.session epoch) => [epoch]
  | _ => []

def seen (p : Pool) (m : Move) : List Sight := p.world.shows (p.move m).world

/-- While a batch comes in, no session takes a step; then the only session goes on until it can do
nothing but wait, and nothing more comes in meanwhile. -/
structure Settles (p : Pool) (batch : List Input) (arriving settling : List Move) : Prop where
  brings : p.trace brought arriving = batch
  holds : p.trace polled arriving = []
  solo : (p.run arriving).world.tasks.length ≤ 1
  quiet : (p.run arriving).trace brought settling = []
  calm : ((p.run arriving).run settling).world.Calm

instance (p : Pool) (batch : List Input) (arriving settling : List Move) :
    Decidable (p.Settles batch arriving settling) :=
  decidable_of_iff (p.trace brought arriving = batch ∧ p.trace polled arriving = [] ∧
    (p.run arriving).world.tasks.length ≤ 1 ∧ (p.run arriving).trace brought settling = [] ∧
    ((p.run arriving).run settling).world.Calm)
    ⟨fun ⟨h₁, h₂, h₃, h₄, h₅⟩ => ⟨h₁, h₂, h₃, h₄, h₅⟩,
      fun h => ⟨h.brings, h.holds, h.solo, h.quiet, h.calm⟩⟩

/-- A run gives the connection one batch after the other. -/
inductive Follows : Pool → List (List Input) → List Move → Prop
  | nil {p : Pool} : Follows p [] []
  | cons {p : Pool} {batch : List Input} {rest : List (List Input)}
      {arriving settling later : List Move} : p.Settles batch arriving settling →
      Follows ((p.run arriving).run settling) rest later →
      Follows p (batch :: rest) (arriving ++ (settling ++ later))

variable {p p' : Pool} {m : Move} {moves moves' : List Move}

/-- Without a step of a session, a move does to the connection what it brings from outside. -/
theorem move_brought (hsecure : ∀ t ∈ p.threads, Secure t.calls) (hpolled : p.polled m = []) :
    (p.move m).world.essence =
      ((p.brought m).map Input.essence).foldl World.takeIn p.world.essence := by
  cases m with
  | step i =>
      change _ = (((p.performed (.step i)).filterMap Action.input?).map Input.essence).foldl _ _
      rcases p.move_step i with ⟨hcall, hmove⟩ | ⟨before, t, after, hthreads, hcall, hmove⟩
      · rw [performed, hcall, hmove]
        rfl
      · rw [performed, hcall, hmove]
        refine World.step_takeIn (hsecure t (by simp [hthreads])) fun epoch hsession => ?_
        rw [polled, hcall, hsession] at hpolled
        cases hpolled
  | tick time => exact (p.world.arrive_essence (.tick time)).symm
  | poll epoch =>
      simp only [move]
      split <;> rfl
  | _ => rfl

/-- A move brings one thing at most, which is seen when it comes. -/
theorem seen_brought (hsecure : ∀ t ∈ p.threads, Secure t.calls) (hpolled : p.polled m = []) :
    p.seen m = World.sightings ((p.brought m).map Input.essence) p.world.essence := by
  have hmove := move_brought hsecure hpolled
  have hle : (p.brought m).length ≤ 1 := by
    cases m with
    | tick time => exact Nat.le_refl 1
    | _ =>
        refine Nat.le_trans (List.length_filterMap_le _ _) ?_
        rw [performed]
        unfold Call.performed
        split <;> simp
  rw [seen, ← World.shows_of_essence, hmove]
  cases hbrought : p.brought m with
  | nil => simp [World.sightings, World.shows]
  | cons i rest =>
      rw [hbrought, List.length_cons] at hle
      obtain rfl : rest = [] := List.eq_nil_of_length_eq_zero (by omega)
      simp [World.sightings]

/-- While no session takes a step, the connection is given what comes from outside. -/
theorem run_brought (hshape : p.Shaped) (hshelter : p.Sheltered)
    (hpolled : p.trace polled moves = []) :
    (p.run moves).world.essence =
        ((p.trace brought moves).map Input.essence).foldl World.takeIn p.world.essence ∧
      p.trace seen moves =
        World.sightings ((p.trace brought moves).map Input.essence) p.world.essence := by
  induction moves generalizing p with
  | nil => exact ⟨rfl, rfl⟩
  | cons m moves ih =>
      obtain ⟨hnow, hlater⟩ := List.append_eq_nil_iff.mp hpolled
      have hshaped := (p.move_moves m hshape).shaped hshape
      obtain ⟨hworld, hseen⟩ := ih hshaped (move_sheltered m hshape hshelter) hlater
      rw [move_brought hshelter.secure hnow] at hworld hseen
      rw [trace, trace, List.map_append, List.foldl_append, World.sightings_append,
        seen_brought hshelter.secure hnow, hseen]
      exact ⟨hworld, rfl⟩

/-- Without anything from outside, a move is a turn of the session, or does nothing to the
connection. -/
theorem move_turn (hsecure : ∀ t ∈ p.threads, Secure t.calls) (hsolo : p.world.tasks.length ≤ 1)
    (hbrought : p.brought m = []) :
    (p.move m).world.tasks.length ≤ 1 ∧
      ((p.move m).world.essence = p.world.essence ∨
        (p.move m).world.essence = p.world.turn) := by
  cases hpolled : p.polled m with
  | nil =>
      have hworld := move_brought hsecure hpolled
      rw [hbrought] at hworld
      have htasks := congrArg (fun w => w.tasks.length) hworld
      simp only [World.essence, List.length_map, List.map_nil, List.foldl_nil] at htasks
      exact ⟨htasks ▸ hsolo, .inl hworld⟩
  | cons epoch rest =>
      have hcall : p.call? m = some (.session epoch) := by
        unfold polled at hpolled
        split at hpolled
        next heq =>
          obtain ⟨rfl, _⟩ := List.cons.inj hpolled
          exact heq
        next => cases hpolled
      obtain ⟨i, value, below, _, _, hmove⟩ := exists_of_session hcall
      rw [hmove]
      exact ⟨Nat.le_trans (p.world.runSession_tasks_length epoch value below) hsolo,
        World.runSession_turn value below hsolo⟩

/-- Without anything from outside, the session takes its turns. -/
theorem run_turns (hshape : p.Shaped) (hshelter : p.Sheltered) (hsolo : p.world.tasks.length ≤ 1)
    (hbrought : p.trace brought moves = []) :
    (p.run moves).world.tasks.length ≤ 1 ∧ ∃ n,
      (p.run moves).world.essence = World.turn^[n] p.world.essence ∧
        p.trace seen moves = World.passes n p.world.essence := by
  induction moves generalizing p with
  | nil => exact ⟨hsolo, 0, rfl, rfl⟩
  | cons m moves ih =>
      obtain ⟨hnow, hlater⟩ := List.append_eq_nil_iff.mp hbrought
      obtain ⟨hsolo', hworld⟩ := move_turn hshelter.secure hsolo hnow
      obtain ⟨hlast, n, hrun, hseen⟩ := ih ((p.move_moves m hshape).shaped hshape)
        (move_sheltered m hshape hshelter) hsolo' hlater
      refine ⟨hlast, ?_⟩
      have hsees : p.seen m = p.world.essence.shows (p.move m).world.essence :=
        (World.shows_of_essence _ _).symm
      rw [trace, hseen, hsees]
      rcases hworld with hworld | hworld
      · rw [hworld] at hrun ⊢
        exact ⟨n, hrun, by simp [World.shows]⟩
      · rw [hworld] at hrun ⊢
        refine ⟨n + 1, ?_, ?_⟩
        · rw [Function.iterate_succ_apply, World.turn_of_essence]
          exact hrun
        · rw [World.passes, World.turn_of_essence]

/-- The connection comes to rest after a batch, with what is seen until then. -/
theorem Settles.rests {batch : List Input} {arriving settling : List Move}
    (h : p.Settles batch arriving settling) (hshape : p.Shaped) (hshelter : p.Sheltered) :
    let c := (batch.map Input.essence).foldl World.takeIn p.world.essence
    ∃ n, (World.turn^[n] c).turn = World.turn^[n] c ∧
      ((p.run arriving).run settling).world.essence = World.turn^[n] c ∧
      p.trace seen (arriving ++ settling) =
        World.sightings (batch.map Input.essence) p.world.essence ++ World.passes n c := by
  intro c
  obtain ⟨hworld, hseen⟩ := run_brought hshape hshelter h.holds
  rw [h.brings] at hworld hseen
  obtain ⟨hsolo, n, hrest, hpasses⟩ := run_turns (run_shaped arriving hshape)
    (run_sheltered arriving hshape hshelter) h.solo h.quiet
  rw [hworld] at hrest hpasses
  refine ⟨n, ?_, hrest, by rw [trace_append, hseen, hpasses]⟩
  rw [← hrest, World.turn_of_essence]
  exact h.calm.turn_eq hsolo

theorem Settles.same {batch batch' : List Input} {arriving arriving' settling settling' : List Move}
    (h : p.Settles batch arriving settling) (h' : p'.Settles batch' arriving' settling')
    (hshape : p.Shaped) (hshape' : p'.Shaped) (hshelter : p.Sheltered) (hshelter' : p'.Sheltered)
    (hessence : p.world.essence = p'.world.essence)
    (hbatch : List.Forall₂ Input.Matches batch batch') :
    p.trace seen (arriving ++ settling) = p'.trace seen (arriving' ++ settling') ∧
      ((p.run arriving).run settling).world.essence =
        ((p'.run arriving').run settling').world.essence := by
  obtain ⟨n, hn, hworld, hseen⟩ := h.rests hshape hshelter
  obtain ⟨k, hk, hworld', hseen'⟩ := h'.rests hshape' hshelter'
  have hinputs := map_eq_of_forall₂ hbatch fun _ _ => Input.Matches.essence_eq
  rw [← hessence, ← hinputs] at hk hworld' hseen'
  obtain ⟨hrest, hpasses⟩ := World.rest_unique hn hk
  rw [hseen, hseen', hworld, hworld', hrest, hpasses]
  exact ⟨rfl, rfl⟩

/-- Two runs that give connections alike matching batches see the same of them. -/
theorem Follows.same {schedule schedule' : List (List Input)} (h : p.Follows schedule moves)
    (h' : p'.Follows schedule' moves') (hshape : p.Shaped) (hshape' : p'.Shaped)
    (hshelter : p.Sheltered) (hshelter' : p'.Sheltered)
    (hessence : p.world.essence = p'.world.essence)
    (hschedule : List.Forall₂ (List.Forall₂ Input.Matches) schedule schedule') :
    p.trace seen moves = p'.trace seen moves' ∧
      (p.run moves).world.essence = (p'.run moves').world.essence := by
  induction h generalizing p' schedule' moves' with
  | nil =>
      cases hschedule
      cases h'
      exact ⟨rfl, hessence⟩
  | @cons p batch rest arriving settling later hsettles hrest ih =>
      cases hschedule with
      | cons hbatch hschedule =>
        cases h' with
        | @cons _ _ _ arriving' settling' later' hsettles' hrest' =>
          obtain ⟨hseen, hworld⟩ :=
            hsettles.same hsettles' hshape hshape' hshelter hshelter' hessence hbatch
          have hshaped := run_shaped arriving hshape
          have hshaped' := run_shaped arriving' hshape'
          obtain ⟨hlater, hend⟩ := ih hrest' (run_shaped settling hshaped)
            (run_shaped settling' hshaped')
            (run_sheltered settling hshaped (run_sheltered arriving hshape hshelter))
            (run_sheltered settling' hshaped' (run_sheltered arriving' hshape' hshelter'))
            hworld hschedule
          have hsplit : ∀ (q : Pool) (first second third : List Move),
              q.trace seen (first ++ (second ++ third)) = q.trace seen (first ++ second) ++
                ((q.run first).run second).trace seen third := by
            intro q first second third
            rw [← List.append_assoc, trace_append, run_append]
          rw [hsplit, hsplit, hseen, hlater, run_append, run_append, run_append, run_append]
          exact ⟨rfl, hend⟩

/-- Subscribers and the contents of events have no say in the connection. Take two runs with the
same configuration, in which attempts to connect are answered alike and nothing that happens just
before an answer calls an observer past the manager. On a connection that is accepted each send may
go its own way, as long as it goes the same way in both runs: at once or slowly, to an error sooner
or later, or to no end. Let what comes from outside match, batch by batch, except that texts may be
others as long as both or neither are replies to heartbeats. Then the same is seen of the connection
in both, whoever subscribes to what, and whatever handlers and observers do and however they end, as
long as they make no requests and the far side sends nothing of its own meanwhile: the sends that
are started and the frames that go out, the deadlines of the heartbeat, when and why a connection is
lost, the changes of state and the counts of retries, each with its time. -/
theorem connection_ignores_subscribers (scenario scenario' : Scenario)
    (opens opens' : List OpenScript) (schedule schedule' : List (List Input))
    (moves moves' : List Move) (hmanager : scenario.manager = scenario'.manager)
    (hfallback : scenario.fallback.Matches scenario'.fallback)
    (hopens : List.Forall₂ OpenScript.Matches opens opens')
    (hreturns : ∀ script ∈ scenario.fallback :: opens, script.Returns)
    (hreturns' : ∀ script ∈ scenario'.fallback :: opens', script.Returns)
    (hschedule : List.Forall₂ (List.Forall₂ Input.Matches) schedule schedule')
    (hfollows : (start scenario opens).Follows schedule moves)
    (hfollows' : (start scenario' opens').Follows schedule' moves') :
    (start scenario opens).trace seen moves = (start scenario' opens').trace seen moves' ∧
      ((start scenario opens).run moves).world.sight =
        ((start scenario' opens').run moves').world.sight := by
  have hscripts := map_eq_of_forall₂ hopens fun _ _ => OpenScript.Matches.essence_eq
  have hessence :
      (start scenario opens).world.essence = (start scenario' opens').world.essence := by
    simp [start, World.start, World.essence, hmanager, hfallback.essence_eq, hscripts]
  obtain ⟨hseen, hworld⟩ := hfollows.same hfollows' (start_shaped scenario opens)
    (start_shaped scenario' opens') (start_sheltered hreturns) (start_sheltered hreturns')
    hessence hschedule
  refine ⟨hseen, ?_⟩
  rw [← World.sight_essence, hworld, World.sight_essence]

/-- The first send on a connection takes its time, the second does not, and the others fail after a
while. -/
def fitful : OpenScript where
  sink := { send := fun
    | 0 => .takes 20
    | 1 => .takes 0
    | _ => .fails 5 "reset" }

def quiet : Scenario where
  fallback := fitful

/-- One of two subscribers reports an error, and the other one breaks off. -/
def noisy : Scenario where
  handlers := [("fails", { ending := .failed "no" }), ("breaks", { ending := .broken })]
  fallback := fitful

def pongText : String := "\x7b\"type\":\"pong\"\x7d"

def eventText : String := "\x7b\"type\":\"service.registered\"\x7d"

def reply : Input := .send (.frame (.text pongText)) none

/-- A connection gets a text and a reply. It is to send three heartbeats: the first goes out when 20
ms are over, the second at once, and each is replied to; the third fails 5 ms later. -/
def visit (text : String) : List (List Input) :=
  [[.connect], [.send (.frame (.text text)) none, reply], [.tick 30000], [.tick 30020, reply],
    [.tick 60000], [reply], [.tick 90000], [.tick 90005]]

/-- The far side sends a text, in a thread of this number. -/
def sending (text : String) (i : Nat) : List Move :=
  [.begin [.send (.frame (.text text)) none], .step i]

/-- The session is polled. -/
def polling (i n : Nat) : List Move := .poll 1 :: List.replicate n (.step i)

/-- Two handlers are subscribed. -/
def subscribing (i : Nat) : List Move :=
  .begin [.subscribe "service.registered" (.scripted "fails"),
    .subscribe "service.registered" (.scripted "breaks")] :: List.replicate 6 (.step i)

/-- What follows when a text and a reply have come in; the session is polled in a thread of this
number, which takes some steps. -/
def heartbeats (i n : Nat) : List Move :=
  polling i n ++ ([.tick 30000] ++ (polling (i + 1) 4 ++
    ((.tick 30020 :: sending pongText (i + 2)) ++ (polling (i + 3) 4 ++ ([.tick 60000] ++
      (polling (i + 4) 4 ++ (sending pongText (i + 5) ++ (polling (i + 6) 4 ++ ([.tick 90000] ++
        (polling (i + 7) 4 ++ ([.tick 90005] ++ (polling (i + 8) 8 ++ []))))))))))))

/-- A visit without subscribers, and with a text that is none of an event. -/
def quietVisit : List Move :=
  [.begin [.connect], .step 0] ++ ((List.replicate 8 (.step 0) ++ polling 1 14) ++
    ((sending "nonsense" 2 ++ sending pongText 3) ++ heartbeats 4 4))

/-- A visit with subscribers, who are called. -/
def noisyVisit : List Move :=
  [.begin [.connect], .step 0] ++ ((List.replicate 8 (.step 0) ++ polling 1 14 ++ subscribing 2) ++
    ((sending eventText 3 ++ sending pongText 4) ++ heartbeats 5 15))

theorem connection_ignores_subscribers_noisy :
    ((start noisy []).run noisyVisit).world.handlerCalls = ["breaks", "fails"] ∧
      (start quiet []).trace seen quietVisit = (start noisy []).trace seen noisyVisit ∧
      ((start quiet []).trace seen quietVisit).flatMap Sight.losses =
        [.pingFailed (.send "reset")] ∧
      ((start quiet []).run quietVisit).world.sight.sent =
        [(60000, 0, .ping 60000), (30020, 0, .ping 30020)] := by
  have hcalls : ((start noisy []).run noisyVisit).world.handlerCalls = ["breaks", "fails"] := by
    decide +kernel
  have hlosses : ((start quiet []).trace seen quietVisit).flatMap Sight.losses =
      [.pingFailed (.send "reset")] := by decide +kernel
  have hsent : ((start quiet []).run quietVisit).world.sight.sent =
      [(60000, 0, .ping 60000), (30020, 0, .ping 30020)] := by decide +kernel
  have hfallback : quiet.fallback.Matches noisy.fallback := ⟨rfl, rfl, .nil, rfl⟩
  have hreturns : ∀ script ∈ [fitful], script.Returns := by
    intro script hscript
    obtain rfl := List.mem_singleton.mp hscript
    exact List.forall_mem_nil _
  have hvisit : List.Forall₂ (List.Forall₂ Input.Matches) (visit "nonsense") (visit eventText) := by
    have htext : isReply "nonsense" = isReply eventText := by decide +kernel
    have hsame : ∀ batches : List (List Input),
        List.Forall₂ (List.Forall₂ Input.Matches) batches batches :=
      fun _ => List.forall₂_same.mpr fun _ _ => List.forall₂_same.mpr fun i _ => .same i
    exact .cons (.cons (.same _) .nil) (.cons (.cons (.send (.texts htext)) (.cons (.same _) .nil))
      (hsame _))
  have hquiet : (start quiet []).Follows (visit "nonsense") quietVisit :=
    .cons (by decide +kernel) (.cons (by decide +kernel) (.cons (by decide +kernel)
      (.cons (by decide +kernel) (.cons (by decide +kernel) (.cons (by decide +kernel)
        (.cons (by decide +kernel) (.cons (by decide +kernel) .nil)))))))
  have hnoisy : (start noisy []).Follows (visit eventText) noisyVisit :=
    .cons (by decide +kernel) (.cons (by decide +kernel) (.cons (by decide +kernel)
      (.cons (by decide +kernel) (.cons (by decide +kernel) (.cons (by decide +kernel)
        (.cons (by decide +kernel) (.cons (by decide +kernel) .nil)))))))
  obtain ⟨hseen, _⟩ := connection_ignores_subscribers quiet noisy [] [] (visit "nonsense")
    (visit eventText) quietVisit noisyVisit rfl hfallback .nil hreturns hreturns hvisit hquiet
    hnoisy
  exact ⟨hcalls, hseen, hlosses, hsent⟩

end Pool

end EventFeed.Simulation
