import EventFeed.Connection.Session

/-! # The timeline of a session

What a session that is left to itself is expected to do, given how its attempts to open a connection
turn out. Times are nanoseconds since the session started.
-/

namespace EventFeed.Simulation

/-- How an attempt to open a connection turns out. -/
inductive Outcome where
  | refused
  /-- No answer comes. -/
  | hung
  /-- The connection is open and lost after so many milliseconds. -/
  | lost (after : Nat)

/-- What is seen of a session. -/
inductive Mark where
  | state (s : ConnectionState)
  | attempt
  deriving DecidableEq

abbrev TimedMark := Nat × Mark

def millis (n : Nat) : Nat := n * 10 ^ 6

namespace Timeline

variable (c : Config)

/-- What follows a failure at a time, after so many earlier ones: the session gives up, or `later`
follows when the delay is over. -/
def afterFailure (later : Nat → UInt32 → List TimedMark) (time : Nat) (failures : UInt32) :
    List TimedMark :=
  (time, .state .reconnecting) ::
    if c.maxReconnectAttempts ≤ failures then [(time, .state .failed)]
    else
      let next := time + ((Backoff.ofConfig c).delayFor failures).nanos
      (next, .state .connecting) :: later next (failures + 1)

/-- What follows an attempt at a time, after so many failures. -/
def afterAttempt (later : Nat → UInt32 → List TimedMark) (time : Nat) (failures : UInt32) :
    Outcome → List TimedMark
  | .refused => afterFailure c later time failures
  | .hung => afterFailure c later (time + c.connectTimeout.nanos) failures
  | .lost after => (time, .state .connected) :: afterFailure c later (time + millis after) 0

/-- The attempts from a time on, after so many failures. -/
def attempts : List Outcome → Nat → UInt32 → List TimedMark
  | [], _, _ => []
  | o :: rest, time, failures =>
    (time, .attempt) :: afterAttempt c (attempts rest) time failures o

end Timeline

/-- The timeline of a session that starts at time zero. -/
def timeline (c : Config) (outcomes : List Outcome) : List TimedMark :=
  (0, .state .connecting) :: Timeline.attempts c outcomes 0 0

/-! ## Time goes on -/

namespace Timeline

variable {c : Config} {later : Nat → UInt32 → List TimedMark}

theorem afterFailure_le (time : Nat) (failures : UInt32)
    (hlater : ∀ time failures, ∀ mark ∈ later time failures, time ≤ mark.1) :
    ∀ mark ∈ afterFailure c later time failures, time ≤ mark.1 := by
  refine List.forall_mem_cons.mpr ⟨Nat.le_refl time, ?_⟩
  split
  next => simp
  next =>
    refine List.forall_mem_cons.mpr ⟨Nat.le_add_right _ _, fun mark hmark => ?_⟩
    exact Nat.le_trans (Nat.le_add_right _ _) (hlater _ _ mark hmark)

theorem afterAttempt_le (time : Nat) (failures : UInt32) (o : Outcome)
    (hlater : ∀ time failures, ∀ mark ∈ later time failures, time ≤ mark.1) :
    ∀ mark ∈ afterAttempt c later time failures o, time ≤ mark.1 := by
  have hfailure : ∀ n failures, ∀ mark ∈ afterFailure c later (time + n) failures,
      time ≤ mark.1 := by
    intro n failures mark hmark
    exact Nat.le_trans (Nat.le_add_right _ _) (afterFailure_le _ _ hlater mark hmark)
  cases o with
  | refused => exact afterFailure_le _ _ hlater
  | hung => exact hfailure _ _
  | lost after => exact List.forall_mem_cons.mpr ⟨Nat.le_refl time, hfailure _ _⟩

theorem attempts_le (outcomes : List Outcome) (time : Nat) (failures : UInt32) :
    ∀ mark ∈ attempts c outcomes time failures, time ≤ mark.1 := by
  induction outcomes generalizing time failures with
  | nil => exact List.forall_mem_nil _
  | cons o outcomes ih =>
      exact List.forall_mem_cons.mpr ⟨Nat.le_refl time, afterAttempt_le _ _ o ih⟩

end Timeline

/-! ## When a session gives up -/

/-- The failures since the start or the last success, counted from so many on. -/
def failuresFrom (n : Nat) (marks : List TimedMark) : Nat :=
  marks.foldl (fun n mark =>
    match mark.2 with
    | .state .connected => 0
    | .state .reconnecting => n + 1
    | _ => n) n

/-- A session that has failed so often gives up after so many failures in a row, then and only then,
and nothing comes after that. -/
def GivesUpAt (limit n : Nat) (marks : List TimedMark) : Prop :=
  ∀ before mark after, marks = before ++ mark :: after →
    (mark.2 = .state .failed ↔ failuresFrom n before = limit) ∧
      (mark.2 = .state .failed → after = [])

namespace GivesUpAt

variable {limit n : Nat} {mark : TimedMark} {marks : List TimedMark}

theorem nil : GivesUpAt limit n [] := by
  intro before mark after h
  simp at h

theorem cons (hmark : mark.2 = .state .failed ↔ n = limit)
    (hlast : mark.2 = .state .failed → marks = [])
    (hmarks : GivesUpAt limit (failuresFrom n [mark]) marks) :
    GivesUpAt limit n (mark :: marks) := by
  intro before mark' after h
  cases before with
  | nil =>
      obtain ⟨rfl, rfl⟩ := List.cons.inj h
      exact ⟨hmark, hlast⟩
  | cons first before =>
      obtain ⟨rfl, hrest⟩ := List.cons.inj h
      exact hmarks before mark' after hrest

/-- A mark that is no failure comes before the limit is reached. -/
theorem cons_of_lt (hlt : n < limit) (hmark : mark.2 ≠ .state .failed)
    (hmarks : GivesUpAt limit (failuresFrom n [mark]) marks) : GivesUpAt limit n (mark :: marks) :=
  cons (iff_of_false hmark (Nat.ne_of_lt hlt)) (fun h => absurd h hmark) hmarks

theorem singleton (hmark : mark.2 = .state .failed) (hn : n = limit) : GivesUpAt limit n [mark] :=
  cons (iff_of_true hmark hn) (fun _ => rfl) nil

end GivesUpAt

namespace Timeline

variable {c : Config} {later : Nat → UInt32 → List TimedMark}

theorem afterFailure_givesUp {failures : UInt32} (time : Nat)
    (hfailures : failures ≤ c.maxReconnectAttempts)
    (hlater : ∀ time failures, failures ≤ c.maxReconnectAttempts →
      GivesUpAt (c.maxReconnectAttempts.toNat + 1) failures.toNat (later time failures)) :
    GivesUpAt (c.maxReconnectAttempts.toNat + 1) failures.toNat
      (afterFailure c later time failures) := by
  rw [UInt32.le_iff_toNat_le] at hfailures
  refine .cons_of_lt (by omega) (by simp) ?_
  change GivesUpAt _ (failures.toNat + 1) _
  split
  next hmax =>
    rw [UInt32.le_iff_toNat_le] at hmax
    exact .singleton rfl (by omega)
  next hmax =>
    rw [UInt32.le_iff_toNat_le] at hmax
    have hnext : (failures + 1).toNat = failures.toNat + 1 := by
      have hlt := c.maxReconnectAttempts.toNat_lt
      rw [UInt32.toNat_add, UInt32.toNat_one, Nat.mod_eq_of_lt (by omega)]
    refine .cons_of_lt (by omega) (by simp) ?_
    change GivesUpAt _ (failures.toNat + 1) _
    rw [← hnext]
    exact hlater _ _ (by rw [UInt32.le_iff_toNat_le]; omega)

theorem afterAttempt_givesUp {failures : UInt32} (time : Nat) (o : Outcome)
    (hfailures : failures ≤ c.maxReconnectAttempts)
    (hlater : ∀ time failures, failures ≤ c.maxReconnectAttempts →
      GivesUpAt (c.maxReconnectAttempts.toNat + 1) failures.toNat (later time failures)) :
    GivesUpAt (c.maxReconnectAttempts.toNat + 1) failures.toNat
      (afterAttempt c later time failures o) := by
  cases o with
  | refused => exact afterFailure_givesUp _ hfailures hlater
  | hung => exact afterFailure_givesUp _ hfailures hlater
  | lost after =>
      have hlt : failures.toNat < c.maxReconnectAttempts.toNat + 1 := by
        rw [UInt32.le_iff_toNat_le] at hfailures
        omega
      exact .cons_of_lt hlt (by simp) (@afterFailure_givesUp c later 0 _ UInt32.zero_le hlater)

theorem attempts_givesUp (outcomes : List Outcome) (time : Nat) (failures : UInt32)
    (hfailures : failures ≤ c.maxReconnectAttempts) :
    GivesUpAt (c.maxReconnectAttempts.toNat + 1) failures.toNat
      (attempts c outcomes time failures) := by
  induction outcomes generalizing time failures with
  | nil => exact .nil
  | cons o outcomes ih =>
      have hlt : failures.toNat < c.maxReconnectAttempts.toNat + 1 := by
        rw [UInt32.le_iff_toNat_le] at hfailures
        omega
      exact .cons_of_lt hlt (by simp) (afterAttempt_givesUp time o hfailures ih)

end Timeline

/-- A session gives up at the failure that is one more than the retries allowed, counted since its
start or its last success, and does nothing after that. -/
theorem timeline_givesUp (c : Config) (outcomes : List Outcome) :
    GivesUpAt (c.maxReconnectAttempts.toNat + 1) 0 (timeline c outcomes) :=
  .cons_of_lt (Nat.succ_pos _) (by simp) (Timeline.attempts_givesUp outcomes 0 0 UInt32.zero_le)

end EventFeed.Simulation
