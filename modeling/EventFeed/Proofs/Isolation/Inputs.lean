import EventFeed.Proofs.Isolation.Turns

/-! # What comes from outside

The clock moves on, the far side sends, somebody makes a request. What that does to the connection
depends on the essence of the world alone, and of an item that is sent only on its own essence.
-/

namespace EventFeed

/-- Items that differ at most in texts, of which both or neither are replies to heartbeats. -/
inductive Inbound.Matches : Inbound → Inbound → Prop
  | same (item : Inbound) : Matches item item
  | texts {s s' : String} : isReply s = isReply s' → Matches (.frame (.text s)) (.frame (.text s'))

theorem Inbound.Matches.essence_eq {item item' : Inbound} (h : item.Matches item') :
    item.essence = item'.essence := by
  cases h with
  | same => rfl
  | texts h => rw [essence, essence, h]

theorem map_eq_of_forall₂ {α β : Type} {R : α → α → Prop} {f : α → β}
    {l l' : List α} (h : List.Forall₂ R l l') (hf : ∀ a b, R a b → f a = f b) :
    l.map f = l'.map f := by
  induction h with
  | nil => rfl
  | cons hab _ ih => rw [List.map_cons, List.map_cons, hf _ _ hab, ih]

namespace Simulation

/-- The same answer at the same time, with a connection that holds matching items and on which each
send goes the same way. -/
structure OpenScript.Matches (script script' : OpenScript) : Prop where
  answer : script.answer = script'.answer
  delay : script.delay = script'.delay
  items : List.Forall₂ Inbound.Matches script.items script'.items
  sink : script.sink = script'.sink

theorem OpenScript.Matches.essence_eq {script script' : OpenScript} (h : script.Matches script') :
    script.essence = script'.essence := by
  have hitems := map_eq_of_forall₂ h.items fun _ _ => Inbound.Matches.essence_eq
  simp only [essence, h.answer, h.delay, h.sink, hitems]

inductive Input.Matches : Input → Input → Prop
  | same (i : Input) : Matches i i
  | send {item item' : Inbound} {link : Option Nat} : item.Matches item' →
      Matches (.send item link) (.send item' link)

def Input.essence : Input → Input
  | .send item link => .send item.essence link
  | i => i

theorem Input.Matches.essence_eq {i i' : Input} (h : i.Matches i') : i.essence = i'.essence := by
  cases h with
  | same => rfl
  | send h => rw [essence, essence, h.essence_eq]

namespace World

/-- Something comes from outside. -/
def arrive (w : World) : Input → World
  | .tick time => w.ring time
  | .send item link => (w.perform (.send item link)).1
  | .connect => w.connect.1
  | .disconnect => w.disconnect.1

variable (w : World)

theorem ring_essence (time : Nat) :
    (w.ring time).essence = { w.essence with now := max w.now time } := by
  refine (essence_overlooks.wakeAll _ _).trans ?_
  simp [essence, Task.essence]

theorem receive_essence (item : Inbound) (n : Nat) :
    (w.essence.receive item.essence n).2.essence = (w.receive item n).2.essence := by
  unfold receive
  rw [link?_essence]
  cases w.link? n with
  | none => exact w.essence_essence
  | some link =>
      have hreleased : link.essence.released = link.released := rfl
      dsimp only [Option.map_some]
      rw [hreleased]
      split
      · exact w.essence_essence
      · have hset : (w.essence.setLink n { link.essence with
            inbox := link.essence.inbox ++ [item.essence] }).essence =
              (w.setLink n { link with inbox := link.inbox ++ [item] }).essence := by
          simp [Link.essence]
        -- whoever is woken in one world or the other, the essence stays
        split <;> split
        · exact (essence_overlooks.wake _ _).trans (hset.trans (essence_overlooks.wake _ _).symm)
        · exact (essence_overlooks.wake _ _).trans hset
        · exact hset.trans (essence_overlooks.wake _ _).symm
        · exact hset

theorem disconnect_essence : (w.essence.disconnect).1.essence = w.disconnect.1.essence := by
  have hdisconnect : ∀ w : World, w.disconnect.1.essence =
      { w.essence with lifecycle := w.lifecycle.disconnect.essence } := by
    intro w
    rw [← w.wakeOwner_essence]
    rfl
  have hlifecycle : w.essence.lifecycle.disconnect.essence = w.lifecycle.disconnect.essence := by
    simp [Lifecycle.essence, Lifecycle.disconnect, Lifecycle.beginEpoch, essence]
  rw [hdisconnect, hdisconnect, hlifecycle, essence_essence]

theorem connect_essence : (w.essence.connect).1.essence = w.connect.1.essence := by
  have hconnect : ∀ (w : World) (l : Lifecycle ObserverId), w.lifecycle.connect? = some l →
      w.connect.1.essence = { w.essence with
        lifecycle := l.essence
        tasks := w.essence.tasks ++
          [{ session := .start w.scenario.manager.config l.epoch }] } := by
    intro w l hl
    have hsame := w.wakeOwner_same
    rw [← w.wakeOwner_essence]
    simp only [connect, hl, spawn]
    simp [essence, Task.essence, Activity.essence, hsame.scenario]
  cases hactive : w.lifecycle.state.isActive with
  | true =>
      have hnone : ∀ w' : World, w'.lifecycle.state = w.lifecycle.state →
          w'.connect.1.essence = w'.essence := by
        intro w' hstate
        simp [connect, Lifecycle.connect?, hstate, hactive]
      rw [hnone w.essence rfl, hnone w rfl, essence_essence]
  | false =>
      have hl : ∀ w' : World, w'.lifecycle.state = w.lifecycle.state →
          w'.lifecycle.connect? = some
            ({ w'.lifecycle.beginEpoch with
              owner := some w'.lifecycle.beginEpoch.epoch }.setState .connecting) := by
        intro w' hstate
        simp [Lifecycle.connect?, hstate, hactive]
      rw [hconnect _ _ (hl w.essence rfl), hconnect _ _ (hl w rfl), essence_essence]
      simp [Lifecycle.essence, Lifecycle.beginEpoch, essence]

theorem arrive_essence (i : Input) :
    (w.essence.arrive i.essence).essence = (w.arrive i).essence := by
  cases i with
  | tick time => simp [arrive, Input.essence, ring_essence]
  | send item link =>
      have hlength : w.essence.links.length = w.links.length := List.length_map _
      simp [arrive, Input.essence, perform, hlength, receive_essence]
  | connect => exact w.connect_essence
  | disconnect => exact w.disconnect_essence

/-- What is left of a world, as far as the connection goes, when something comes from outside. -/
def takeIn (w : World) (i : Input) : World := (w.arrive i).essence

/-- What is seen while things come from outside. -/
def sightings : List Input → World → List Sight
  | [], _ => []
  | i :: inputs, w => w.shows (w.takeIn i) ++ sightings inputs (w.takeIn i)

theorem sightings_append (inputs more : List Input) (w : World) :
    sightings (inputs ++ more) w =
      sightings inputs w ++ sightings more (inputs.foldl takeIn w) := by
  induction inputs generalizing w with
  | nil => rfl
  | cons i inputs ih => simp [sightings, ih]

variable {w}

/-- A step that is none of a session does to the connection what comes from outside with it. -/
theorem step_takeIn {t : Thread} (hsecure : Secure t.calls)
    (hsession : ∀ epoch, t.calls.head? ≠ some (.session epoch)) :
    (w.step t).1.essence = (((Call.performed t.calls.head?).filterMap Action.input?).map
      Input.essence).foldl takeIn w.essence := by
  have hquiet : (∀ a ∈ Call.performed t.calls.head?, a.input? = none) →
      (w.step t).1.essence = (((Call.performed t.calls.head?).filterMap Action.input?).map
        Input.essence).foldl takeIn w.essence := by
    intro hinput
    rw [List.filterMap_eq_nil_iff.mpr hinput]
    exact w.step_essence hsecure hsession hinput
  obtain ⟨calls, value⟩ := t
  cases calls with
  | nil => exact hquiet (List.forall_mem_nil _)
  | cons c calls =>
    cases c with
    | actions list =>
        cases list with
        | nil => exact hquiet (List.forall_mem_nil _)
        | cons a rest =>
            cases hinput : a.input? with
            | none => exact hquiet (List.forall_mem_singleton.mpr hinput)
            | some i =>
                have harrive : (w.step ⟨.actions (a :: rest) :: calls, value⟩).1 = w.arrive i := by
                  cases a <;> cases hinput <;> rfl
                rw [harrive]
                simpa [Call.performed, hinput, takeIn] using (w.arrive_essence i).symm
    | _ => exact hquiet (List.forall_mem_nil _)

end World

end Simulation

end EventFeed
