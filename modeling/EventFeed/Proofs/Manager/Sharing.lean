import EventFeed.Manager.Shared
import EventFeed.Proofs.Config.Validity
import Mathlib.Data.List.Induction
import Mathlib.Logic.Function.Basic

/-! # The same manager for everybody

A process may have any number of shared managers. Each of them is built when it is first asked for
where it can be built, and is the same for everybody from then on. Asking in vain leaves nothing
behind.
-/

namespace EventFeed

/-- An atomic section of a lifecycle, whoever goes through it: a caller, an observer, a session. -/
inductive Lifecycle.Section (Observer : Type) where
  | connect
  | disconnect
  | advance (epoch : UInt64) (next : ConnectionState) (attempts : Option UInt32)
  | addObserver (observer : Observer)
  | removeObserver (observer : Observer)
  | enterDrain
  | takeTransition

/-- The lifecycle after a section, which may find that there is nothing to do. -/
def Lifecycle.pass {Observer : Type} [DecidableEq Observer] (l : Lifecycle Observer) :
    Lifecycle.Section Observer → Lifecycle Observer
  | .connect => l.connect?.getD l
  | .disconnect => l.disconnect
  | .advance epoch next attempts => (l.advance? epoch next attempts).getD l
  | .addObserver o => (l.addObserver? o).getD l
  | .removeObserver o => l.removeObserver o
  | .enterDrain => l.enterDrain?.getD l
  | .takeTransition => l.takeTransition.2

/-! ## Building -/

namespace Manager

variable {c : Config}

theorem build_of_violation {v : Config.Violation} (h : c.validate = .error v)
    (insideRuntime : Bool) : build c insideRuntime = .error (.config (.validation v)) := by
  rw [build, h]

theorem build_outside (h : c.validate = .ok ()) : build c false = .error .noRuntime := by
  obtain ⟨url, hurl⟩ := (Config.validate_eq_ok.mp h).endpoint
  simp [build, h, Config.endpointUrl_eq_ok.mpr hurl]

theorem inside_of_build {m : Manager} {insideRuntime : Bool} (h : build c insideRuntime = .ok m) :
    insideRuntime = true := by
  cases insideRuntime with
  | true => rfl
  | false =>
      rw [build_outside (Config.validate_eq_ok.mpr (valid_of_build h).1)] at h
      cases h

end Manager

/-- The shared managers of a process, each under a key of its own, and the managers that have been
built. -/
structure Sharing (Key Observer : Type) where
  shared : Key → SharedManager
  managers : Managers Observer := []

namespace Sharing

/-- What somebody does with the shared managers, or with a manager that they have got hold of. -/
inductive Request (Key Observer : Type) where
  | get (key : Key) (insideRuntime : Bool)
  /-- Asks for a manager only if it has been built. -/
  | getIfCreated (key : Key)
  /-- Reads the state of a manager and its count of retries. -/
  | look (manager : Nat)
  | pass (manager : Nat) (s : Lifecycle.Section Observer)

inductive Answer where
  | manager (n : Nat)
  | failed (error : ManagerError)
  | absent
  | seen (found : Option (ConnectionState × UInt32))
  | done
  deriving DecidableEq

/-- The request asks for the manager under a key. -/
def Request.asks {Key Observer : Type} (key : Key) : Request Key Observer → Prop
  | .get k _ | .getIfCreated k => k = key
  | _ => False

/-- What the request does to a manager. -/
def Request.sections {Key Observer : Type} (n : Nat) :
    Request Key Observer → List (Lifecycle.Section Observer)
  | .pass k s => if k = n then [s] else []
  | _ => []

variable {Key Observer : Type}

def initial (configs : Key → Config) : Sharing Key Observer where
  shared key := { config := configs key }

def lifecycle? (p : Sharing Key Observer) (n : Nat) : Option (Lifecycle Observer) :=
  p.managers[n]?.map RunningManager.lifecycle

def config? (p : Sharing Key Observer) (n : Nat) : Option Config :=
  p.managers[n]?.map fun running => running.manager.config

section Requests

variable [DecidableEq Key]

def get (p : Sharing Key Observer) (key : Key) (insideRuntime : Bool) :
    Answer × Sharing Key Observer :=
  match (p.shared key).get p.managers insideRuntime with
  | .ok (n, s, all) => (.manager n, ⟨Function.update p.shared key s, all⟩)
  | .error e => (.failed e, p)

variable [DecidableEq Observer]

def perform (p : Sharing Key Observer) : Request Key Observer → Answer × Sharing Key Observer
  | .get key insideRuntime => p.get key insideRuntime
  | .getIfCreated key => ((p.shared key).built.elim .absent .manager, p)
  | .look n => (.seen ((p.lifecycle? n).map fun l => (l.state, l.attempts)), p)
  | .pass n s =>
    (.done, { p with
      managers := p.managers.modify n fun r => { r with lifecycle := r.lifecycle.pass s } })

def run (p : Sharing Key Observer) (requests : List (Request Key Observer)) :
    Sharing Key Observer :=
  requests.foldl (fun p r => (p.perform r).2) p

/-- The answers to requests made one after another. -/
def answers : Sharing Key Observer → List (Request Key Observer) → List Answer
  | _, [] => []
  | p, r :: rest => (p.perform r).1 :: (p.perform r).2.answers rest

/-- Somebody who asks for the manager under a key, at some place of a run, is given this one. -/
def Gives (p : Sharing Key Observer) (requests : List (Request Key Observer)) (key : Key)
    (n : Nat) : Prop :=
  ∃ before r after, requests = before ++ r :: after ∧ r.asks key ∧
    ((p.run before).perform r).1 = .manager n

end Requests

/-! ## One request -/

section Step

variable [DecidableEq Key] {p : Sharing Key Observer} {key other : Key} {n : Nat}
  {insideRuntime : Bool} {outcome : Answer × Sharing Key Observer}

/-- What becomes of asking for a manager: it is there, or it is built, or neither and all is left as
it is. -/
inductive Gets (p : Sharing Key Observer) (key : Key) (insideRuntime : Bool) :
    Answer × Sharing Key Observer → Prop
  | there {n : Nat} : (p.shared key).built = some n → Gets p key insideRuntime (.manager n, p)
  | fails {e : ManagerError} : (p.shared key).built = none →
      Manager.build (p.shared key).config insideRuntime = .error e →
        Gets p key insideRuntime (.failed e, p)
  | builds {m : Manager} : (p.shared key).built = none →
      Manager.build (p.shared key).config insideRuntime = .ok m →
        Gets p key insideRuntime (.manager p.managers.length,
          ⟨Function.update p.shared key { p.shared key with built := some p.managers.length },
            p.managers ++ [{ manager := m }]⟩)

theorem get_gets (p : Sharing Key Observer) (key : Key) (insideRuntime : Bool) :
    p.Gets key insideRuntime (p.get key insideRuntime) := by
  unfold get SharedManager.get
  cases hbuilt : (p.shared key).built with
  | some n =>
      have hsame : Function.update p.shared key (p.shared key) = p.shared :=
        Function.update_eq_self key p.shared
      dsimp only
      rw [hsame]
      exact .there hbuilt
  | none =>
      cases hbuild : Manager.build (p.shared key).config insideRuntime with
      | error e => exact .fails hbuilt hbuild
      | ok m => exact .builds hbuilt hbuild

/-- What is there stays there. -/
theorem Gets.keeps (h : p.Gets key insideRuntime outcome) (hn : (p.shared other).built = some n) :
    (outcome.2.shared other).built = some n := by
  cases h with
  | there | fails => exact hn
  | builds hnone =>
      have hne : other ≠ key := fun heq => by
        rw [heq, hnone] at hn
        cases hn
      simpa [Function.update_of_ne hne] using hn

theorem Gets.manager_iff (h : p.Gets key insideRuntime outcome) :
    outcome.1 = .manager n ↔ (outcome.2.shared key).built = some n := by
  cases h with
  | there hn => simp [hn]
  | fails hnone => simp [hnone]
  | builds => simp

/-- Managers that are there are left as they are. -/
theorem Gets.managers {running : RunningManager Observer} (h : p.Gets key insideRuntime outcome)
    (hn : p.managers[n]? = some running) : outcome.2.managers[n]? = some running := by
  cases h with
  | there | fails => exact hn
  | builds =>
      dsimp only
      rw [List.getElem?_append_left (List.getElem?_eq_some_iff.mp hn).1]
      exact hn

/-- Asking in vain leaves no trace. -/
theorem Gets.of_failed {e : ManagerError} (h : p.Gets key insideRuntime outcome)
    (hfailed : outcome.1 = .failed e) : (p.shared key).built = none ∧ outcome.2 = p := by
  cases h with
  | there => cases hfailed
  | fails hnone => exact ⟨hnone, rfl⟩
  | builds => cases hfailed

/-- A manager that is built is not one of those that are there, and nothing has happened to it. -/
theorem Gets.fresh (h : p.Gets key insideRuntime outcome) (hnone : (p.shared key).built = none)
    (hgiven : outcome.1 = .manager n) :
    p.lifecycle? n = none ∧ outcome.2.lifecycle? n = some {} := by
  cases h with
  | there hn =>
      rw [hnone] at hn
      cases hn
  | fails => cases hgiven
  | builds =>
      cases hgiven
      simp [lifecycle?]

variable [DecidableEq Observer] {r : Request Key Observer}

theorem built_perform (h : (p.shared key).built = some n) (r : Request Key Observer) :
    ((p.perform r).2.shared key).built = some n := by
  cases r with
  | get k insideRuntime => exact (p.get_gets k insideRuntime).keeps h
  | _ => exact h

/-- Whoever asks for a manager is given the one that is there afterwards. -/
theorem perform_eq_manager (hr : r.asks key) :
    (p.perform r).1 = .manager n ↔ ((p.perform r).2.shared key).built = some n := by
  cases r with
  | get k insideRuntime =>
      obtain rfl : k = key := hr
      exact (p.get_gets k insideRuntime).manager_iff
  | getIfCreated k =>
      obtain rfl : k = key := hr
      rw [perform]
      cases (p.shared k).built <;> simp
  | _ => exact hr.elim

/-- A manager changes by what is done to it, and by nothing else. -/
theorem managers_perform {running : RunningManager Observer} (h : p.managers[n]? = some running)
    (r : Request Key Observer) :
    (p.perform r).2.managers[n]? =
      some { running with
        lifecycle := (r.sections n).foldl Lifecycle.pass running.lifecycle } := by
  cases r with
  | get k insideRuntime => exact (p.get_gets k insideRuntime).managers h
  | pass k s =>
      rw [perform, List.getElem?_modify, h, Request.sections]
      split <;> rfl
  | _ => exact h

theorem lifecycle?_perform {l : Lifecycle Observer} (h : p.lifecycle? n = some l)
    (r : Request Key Observer) :
    (p.perform r).2.lifecycle? n = some ((r.sections n).foldl Lifecycle.pass l) := by
  obtain ⟨running, hrunning, rfl⟩ := Option.map_eq_some_iff.mp h
  rw [lifecycle?, managers_perform hrunning r]
  rfl

/-- A manager keeps its configuration. -/
theorem config?_perform {c : Config} (h : p.config? n = some c) (r : Request Key Observer) :
    (p.perform r).2.config? n = some c := by
  obtain ⟨running, hrunning, rfl⟩ := Option.map_eq_some_iff.mp h
  rw [config?, managers_perform hrunning r]
  rfl

end Step

/-! ## Runs -/

section Run

variable [DecidableEq Key] [DecidableEq Observer] {p : Sharing Key Observer} {key other : Key}
  {n m : Nat} {requests before after : List (Request Key Observer)} {configs : Key → Config}

theorem run_append : p.run (before ++ after) = (p.run before).run after := List.foldl_append

theorem built_run (h : (p.shared key).built = some n) (requests : List (Request Key Observer)) :
    ((p.run requests).shared key).built = some n := by
  induction requests generalizing p with
  | nil => exact h
  | cons r requests ih => exact ih (built_perform h r)

theorem Gives.built (h : p.Gives requests key n) :
    ((p.run requests).shared key).built = some n := by
  obtain ⟨before, r, after, rfl, hr, hgiven⟩ := h
  rw [run_append]
  exact built_run ((perform_eq_manager hr).mp hgiven) after

theorem lifecycle?_run {l : Lifecycle Observer} (h : p.lifecycle? n = some l)
    (requests : List (Request Key Observer)) :
    (p.run requests).lifecycle? n =
      some ((requests.flatMap (Request.sections n)).foldl Lifecycle.pass l) := by
  induction requests generalizing p l with
  | nil => exact h
  | cons r requests ih =>
      rw [List.flatMap_cons, List.foldl_append]
      exact ih (lifecycle?_perform h r)

/-- What has been built agrees with what has been asked for. -/
structure Sound (p : Sharing Key Observer) (configs : Key → Config)
    (made : List (Request Key Observer)) : Prop where
  config : ∀ key, (p.shared key).config = configs key
  /-- A manager is built with the configuration that belongs to its key. -/
  held : ∀ key n, (p.shared key).built = some n → p.config? n = some (configs key)
  apart : ∀ key other n, (p.shared key).built = some n → (p.shared other).built = some n →
    key = other
  built_iff : ∀ key, (∃ n, (p.shared key).built = some n) ↔
    (configs key).validate = .ok () ∧ .get key true ∈ made

omit [DecidableEq Key] [DecidableEq Observer] in
theorem initial_sound (configs : Key → Config) :
    (initial configs : Sharing Key Observer).Sound configs [] where
  config _ := rfl
  held _ _ h := by cases h
  apart _ _ _ h := by cases h
  built_iff _ := by simp [initial]

omit [DecidableEq Key] [DecidableEq Observer] in
/-- A request that builds nothing, since it does not ask for a manager that is not there and could
be built. -/
theorem Sound.keep {p' : Sharing Key Observer} {r : Request Key Observer}
    (h : p.Sound configs requests) (hshared : p'.shared = p.shared)
    (hconfigs : ∀ n c, p.config? n = some c → p'.config? n = some c)
    (hasked : ∀ key, r = .get key true → (configs key).validate = .ok () →
      ∃ n, (p.shared key).built = some n) :
    p'.Sound configs (requests ++ [r]) := by
  refine ⟨?_, ?_, ?_, ?_⟩
  · rw [hshared]
    exact h.config
  · rw [hshared]
    exact fun key n hbuilt => hconfigs n _ (h.held key n hbuilt)
  · rw [hshared]
    exact h.apart
  · rw [hshared]
    intro key
    rw [List.mem_append, List.mem_singleton]
    constructor
    · intro hbuilt
      obtain ⟨hvalid, hmade⟩ := (h.built_iff key).mp hbuilt
      exact ⟨hvalid, .inl hmade⟩
    · rintro ⟨hvalid, hmade | hmade⟩
      · exact (h.built_iff key).mpr ⟨hvalid, hmade⟩
      · exact hasked key hmade.symm hvalid

omit [DecidableEq Key] [DecidableEq Observer] in
theorem Sound.lt_length (h : p.Sound configs requests) (hbuilt : (p.shared key).built = some n) :
    n < p.managers.length := by
  obtain ⟨running, hrunning, _⟩ := Option.map_eq_some_iff.mp (h.held key n hbuilt)
  exact (List.getElem?_eq_some_iff.mp hrunning).1

omit [DecidableEq Observer] in
/-- A manager is built for whoever asks first, behind all those that are there. -/
theorem Sound.build {m : Manager} (h : p.Sound configs requests)
    (hbuild : Manager.build (p.shared key).config true = .ok m) :
    (⟨Function.update p.shared key { p.shared key with built := some p.managers.length },
      p.managers ++ [{ manager := m }]⟩ : Sharing Key Observer).Sound configs
        (requests ++ [.get key true]) := by
  obtain ⟨hvalid, hconfig⟩ := Manager.valid_of_build hbuild
  rw [h.config] at hvalid hconfig
  refine ⟨fun other => ?_, fun other n hn => ?_, fun one other n hone hother => ?_, fun other => ?_⟩
  · by_cases hkey : other = key
    · subst hkey
      simpa using h.config other
    · simpa [Function.update_of_ne hkey] using h.config other
  · by_cases hkey : other = key
    · subst hkey
      simp only [Function.update_self, Option.some.injEq] at hn
      simp [config?, ← hn, hconfig]
    · simp only [Function.update_of_ne hkey] at hn
      simpa [config?, List.getElem?_append_left (h.lt_length hn)] using h.held other n hn
  · -- the new manager has a place that none had before
    by_cases hkey : one = key <;> by_cases hkey' : other = key
    · rw [hkey, hkey']
    · subst hkey
      simp only [Function.update_self, Option.some.injEq] at hone
      simp only [Function.update_of_ne hkey'] at hother
      exact absurd (h.lt_length hother) (by omega)
    · subst hkey'
      simp only [Function.update_self, Option.some.injEq] at hother
      simp only [Function.update_of_ne hkey] at hone
      exact absurd (h.lt_length hone) (by omega)
    · simp only [Function.update_of_ne hkey] at hone
      simp only [Function.update_of_ne hkey'] at hother
      exact h.apart one other n hone hother
  · by_cases hkey : other = key
    · subst hkey
      simp [Config.validate_eq_ok.mpr hvalid]
    · have hne : (.get other true : Request Key Observer) ≠ .get key true := fun heq => by
        cases heq
        exact hkey rfl
      simp only [Function.update_of_ne hkey, h.built_iff, List.mem_append, List.mem_singleton, hne,
        or_false]

omit [DecidableEq Observer] in
theorem Sound.gets {insideRuntime : Bool} {outcome : Answer × Sharing Key Observer}
    (h : p.Sound configs requests) (hgets : p.Gets key insideRuntime outcome) :
    outcome.2.Sound configs (requests ++ [.get key insideRuntime]) := by
  cases hgets with
  | @there n hn =>
      refine h.keep rfl (fun _ _ hc => hc) fun other hother _ => ?_
      cases hother
      exact ⟨n, hn⟩
  | fails _ hbuild =>
      refine h.keep rfl (fun _ _ hc => hc) fun other hother hvalid => ?_
      cases hother
      obtain ⟨m, hm, _⟩ := Manager.build_of_valid (Config.validate_eq_ok.mp hvalid)
      rw [h.config, hm] at hbuild
      cases hbuild
  | builds _ hbuild =>
      obtain rfl := Manager.inside_of_build hbuild
      exact h.build hbuild

theorem Sound.perform (h : p.Sound configs requests) (r : Request Key Observer) :
    (p.perform r).2.Sound configs (requests ++ [r]) := by
  cases r with
  | get k insideRuntime => exact h.gets (p.get_gets k insideRuntime)
  | getIfCreated | look | pass =>
      exact h.keep rfl (fun _ _ hc => config?_perform hc _) fun _ hother => by cases hother

theorem run_sound (configs : Key → Config) (requests : List (Request Key Observer)) :
    ((initial configs).run requests).Sound configs requests := by
  induction requests using List.reverseRecOn with
  | nil => exact initial_sound configs
  | append_singleton requests r ih =>
      rw [run_append]
      exact ih.perform r

/-! ## What is answered -/

omit [DecidableEq Observer] in
/-- Where the configuration is valid, a manager is given to whoever asks, unless nobody has asked
for it yet in a place where it could be built. -/
theorem Sound.given_or_refused {insideRuntime : Bool} {outcome : Answer × Sharing Key Observer}
    (h : p.Sound configs requests) (hvalid : (configs key).validate = .ok ())
    (hgets : p.Gets key insideRuntime outcome) :
    (∃ n, outcome.1 = .manager n ∧ (insideRuntime = true ∨ .get key true ∈ requests)) ∨
      (outcome.1 = .failed .noRuntime ∧ insideRuntime = false ∧ .get key true ∉ requests) := by
  cases hgets with
  | @there n hn => exact .inl ⟨n, rfl, .inr ((h.built_iff key).mp ⟨n, hn⟩).2⟩
  | fails hnone hbuild =>
      have hnever : .get key true ∉ requests := fun hmade => by
        obtain ⟨n, hn⟩ := (h.built_iff key).mpr ⟨hvalid, hmade⟩
        rw [hnone] at hn
        cases hn
      rw [h.config] at hbuild
      cases insideRuntime with
      | true =>
          obtain ⟨m, hm, _⟩ := Manager.build_of_valid (Config.validate_eq_ok.mp hvalid)
          rw [hm] at hbuild
          cases hbuild
      | false =>
          rw [Manager.build_outside hvalid] at hbuild
          cases hbuild
          exact .inr ⟨rfl, rfl, hnever⟩
  | builds _ hbuild => exact .inl ⟨_, rfl, .inl (Manager.inside_of_build hbuild)⟩

theorem Sound.exists_manager_iff (h : p.Sound configs requests)
    (hvalid : (configs key).validate = .ok ()) (insideRuntime : Bool) :
    (∃ n, (p.perform (.get key insideRuntime)).1 = .manager n) ↔
      insideRuntime = true ∨ .get key true ∈ requests := by
  rw [Sharing.perform]
  rcases h.given_or_refused hvalid (p.get_gets key insideRuntime) with
    ⟨n, hn, hwhen⟩ | ⟨hfailed, houtside, hnever⟩
  · exact ⟨fun _ => hwhen, fun _ => ⟨n, hn⟩⟩
  · rw [hfailed]
    simp [houtside, hnever]

theorem Sound.failed_iff (h : p.Sound configs requests)
    (hvalid : (configs key).validate = .ok ()) (insideRuntime : Bool) (e : ManagerError) :
    (p.perform (.get key insideRuntime)).1 = .failed e ↔
      e = .noRuntime ∧ insideRuntime = false ∧ .get key true ∉ requests := by
  rw [Sharing.perform]
  rcases h.given_or_refused hvalid (p.get_gets key insideRuntime) with
    ⟨n, hn, hwhen⟩ | ⟨hfailed, houtside, hnever⟩
  · rw [hn]
    rcases hwhen with hinside | hmade
    · simp [hinside]
    · simp [hmade]
  · rw [hfailed]
    simp [houtside, hnever, eq_comm]

omit [DecidableEq Key] [DecidableEq Observer] in
theorem Sound.built_eq_none (h : p.Sound configs requests) {v : Config.Violation}
    (hinvalid : (configs key).validate = .error v) : (p.shared key).built = none := by
  cases hbuilt : (p.shared key).built with
  | none => rfl
  | some n =>
      have hvalid := ((h.built_iff key).mp ⟨n, hbuilt⟩).1
      rw [hinvalid] at hvalid
      cases hvalid

omit [DecidableEq Observer] in
/-- Where the configuration is not valid, whoever asks is told what is wrong with it. -/
theorem Sound.refused {insideRuntime : Bool} {outcome : Answer × Sharing Key Observer}
    {v : Config.Violation} (h : p.Sound configs requests)
    (hinvalid : (configs key).validate = .error v) (hgets : p.Gets key insideRuntime outcome) :
    outcome.1 = .failed (.config (.validation v)) := by
  have hbuilds := Manager.build_of_violation hinvalid insideRuntime
  rw [← h.config key] at hbuilds
  cases hgets with
  | there hn =>
      rw [h.built_eq_none hinvalid] at hn
      cases hn
  | fails _ hbuild =>
      rw [hbuilds] at hbuild
      cases hbuild
      rfl
  | builds _ hbuild =>
      rw [hbuilds] at hbuild
      cases hbuild

/-- A shared manager is built when it is asked for inside an event loop for the first time, if its
configuration is valid, and everybody is given that one from then on. It has the configuration that
belongs to its key, is nobody else's, and is in the state in which those who have got hold of it
have left it. Asking in vain changes nothing. -/
theorem one_manager_for_everybody (configs : Key → Config)
    (requests : List (Request Key Observer)) (p : Sharing Key Observer)
    (hp : p = (initial configs).run requests) :
    (∀ key insideRuntime e, (p.perform (.get key insideRuntime)).1 = .failed e →
      (p.shared key).built = none ∧
        ∀ later, (p.perform (.get key insideRuntime)).2.answers later = p.answers later) ∧
    (∀ key v, (configs key).validate = .error v →
      (p.shared key).built = none ∧
        (∀ insideRuntime,
          (p.perform (.get key insideRuntime)).1 = .failed (.config (.validation v))) ∧
        (p.perform (.getIfCreated key)).1 = .absent) ∧
    (∀ key, (configs key).validate = .ok () →
      ((p.shared key).built = none ↔ .get key true ∉ requests) ∧
        ∀ insideRuntime,
          ((∃ n, (p.perform (.get key insideRuntime)).1 = .manager n) ↔
            insideRuntime = true ∨ .get key true ∈ requests) ∧
          ∀ e, (p.perform (.get key insideRuntime)).1 = .failed e ↔
            e = .noRuntime ∧ insideRuntime = false ∧ .get key true ∉ requests) ∧
    (∀ key n, (initial configs).Gives requests key n →
      p.config? n = some (configs key) ∧
        (∀ r : Request Key Observer, r.asks key → (p.perform r).1 = .manager n) ∧
        ∀ other m, (initial configs).Gives requests other m → (n = m ↔ key = other)) ∧
    (∀ key insideRuntime n, (p.shared key).built = none →
      (p.perform (.get key insideRuntime)).1 = .manager n →
        p.lifecycle? n = none ∧
          (p.perform (.get key insideRuntime)).2.lifecycle? n = some {}) ∧
    ∀ before after n l, requests = before ++ after →
      ((initial configs).run before).lifecycle? n = some l →
        let left := (after.flatMap (Request.sections n)).foldl Lifecycle.pass l
        p.lifecycle? n = some left ∧
          (p.perform (.look n)).1 = .seen (some (left.state, left.attempts)) := by
  have hsound : p.Sound configs requests := hp ▸ run_sound configs requests
  refine ⟨fun key insideRuntime e hfailed => ?_, fun key v hinvalid => ⟨?_, ?_, ?_⟩,
    fun key hvalid => ⟨?_, fun insideRuntime => ⟨?_, ?_⟩⟩, fun key n hgives => ⟨?_, ?_, ?_⟩,
    fun key insideRuntime n => (p.get_gets key insideRuntime).fresh,
    fun before after n l hrequests hl => ?_⟩
  · obtain ⟨hnone, hsame⟩ := (p.get_gets key insideRuntime).of_failed hfailed
    exact ⟨hnone, fun later => by rw [perform, hsame]⟩
  · exact hsound.built_eq_none hinvalid
  · exact fun insideRuntime => hsound.refused hinvalid (p.get_gets key insideRuntime)
  · rw [perform, hsound.built_eq_none hinvalid]
    rfl
  · rw [Option.eq_none_iff_forall_ne_some, ← not_exists, hsound.built_iff key]
    simp [hvalid]
  · exact hsound.exists_manager_iff hvalid insideRuntime
  · exact hsound.failed_iff hvalid insideRuntime
  · subst hp
    exact hsound.held key n hgives.built
  · subst hp
    exact fun r hr => (perform_eq_manager hr).mpr (built_perform hgives.built r)
  · subst hp
    intro other m hother
    constructor
    · rintro rfl
      exact hsound.apart key other n hgives.built hother.built
    · rintro rfl
      exact Option.some.inj (hgives.built.symm.trans hother.built)
  · have hleft : p.lifecycle? n =
        some ((after.flatMap (Request.sections n)).foldl Lifecycle.pass l) := by
      rw [hp, hrequests, run_append]
      exact lifecycle?_run hl after
    refine ⟨hleft, ?_⟩
    rw [perform, hleft]
    rfl

end Run

/-- Two managers that can be built, and one that cannot. -/
def promised : Option Bool → Config
  | none => { endpoint := "http://[::1]/" }
  | some _ => { endpoint := "ws://[::1]/" }

/-- A manager is asked for outside an event loop, and another that cannot be built anywhere. -/
def hesitation : List (Request (Option Bool) Unit) := [.get (some true) false, .get none true]

/-- The first manager is built after all and is connected, and then another one is built. -/
def insistence : List (Request (Option Bool) Unit) :=
  hesitation ++ [.get (some true) true, .pass 0 .connect, .get (some false) true]

theorem one_manager_for_everybody_insistent :
    (∀ later, (((initial promised).run hesitation).perform
        (.get (some true) false)).2.answers later =
      ((initial promised).run hesitation).answers later) ∧
    (((initial promised).run hesitation).perform (.get (some true) false)).1 =
      .failed .noRuntime ∧
    (((initial promised).run hesitation).perform (.get (some true) true)).2.lifecycle? 0 =
      some {} ∧
    (((initial promised).run insistence).perform (.get none false)).1 =
      .failed (.config (.validation (.badScheme "http"))) ∧
    (∀ r : Request (Option Bool) Unit, r.asks (some true) →
      (((initial promised).run insistence).perform r).1 = .manager 0) ∧
    ¬ (initial promised).Gives insistence (some false) 0 ∧
    (((initial promised).run insistence).perform (.look 0)).1 =
      .seen (some (.connecting, 0)) := by
  have hvalid : (promised (some true)).validate = .ok () := by decide +kernel
  have hgives : (initial promised).Gives insistence (some true) 0 :=
    ⟨hesitation, .get (some true) true, [.pass 0 .connect, .get (some false) true], rfl, rfl,
      by decide +kernel⟩
  obtain ⟨hvain, -, hready, -, hnew, -⟩ := one_manager_for_everybody promised hesitation _ rfl
  obtain ⟨-, hinvalid, -, hgiven, -, hleft⟩ := one_manager_for_everybody promised insistence _ rfl
  have hfailed := (((hready (some true) hvalid).2 false).2 .noRuntime).mpr
    ⟨rfl, rfl, by simp [hesitation]⟩
  have hsplit : insistence =
      (hesitation ++ [.get (some true) true]) ++ [.pass 0 .connect, .get (some false) true] := rfl
  have hbuilt := (hnew (some true) true 0 (by decide +kernel) (by decide +kernel)).2
  refine ⟨(hvain _ _ _ hfailed).2, hfailed, hbuilt, ?_, (hgiven _ _ hgives).2.1, ?_, ?_⟩
  · exact (hinvalid none (.badScheme "http") (by decide +kernel)).2.1 false
  · intro hother
    have hsame := ((hgiven _ _ hgives).2.2 (some false) 0 hother).mp rfl
    cases hsame
  · exact (hleft _ _ 0 {} hsplit (by rw [run_append]; exact hbuilt)).2

end Sharing

end EventFeed
