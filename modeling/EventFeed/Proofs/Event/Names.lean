import EventFeed.Proofs.Dispatch.History

/-! # Names of event types

A text is the name of an event type exactly when it has the form of a name. Every type is found
again under its name and under no other, so two names share a list of subscribers only if they are
the same.
-/

namespace EventFeed

namespace EventName

/-- The characters with which a name may start. -/
def headCharacters : List Char :=
  "ABCDEFGHIJKLMNOPQRSTUVWXYZabcdefghijklmnopqrstuvwxyz0123456789_".toList

/-- The characters with which a name may go on. -/
def tailCharacters : List Char := headCharacters ++ ".:-".toList

/-- The form of a name. -/
structure WellFormed (name : String) : Prop where
  nonempty : 1 ≤ name.utf8ByteSize
  short : name.utf8ByteSize ≤ 128
  characters : ∃ first rest, name.toList = first :: rest ∧ first ∈ headCharacters ∧
    ∀ c ∈ rest, c ∈ tailCharacters

/-- The names that belong to the registry. -/
def registryNames : List String :=
  ["service.registered", "service.unregistered", "instance.registered", "instance.unregistered",
    "instance.status_changed", "cluster.node_added", "cluster.node_removed"]

theorem toNat_lt_of_isHead {c : Char} (h : isHead c = true) : c.toNat < 128 := by
  have hle : ∀ {d : Char}, d.toNat < 128 → c ≤ d → c.toNat < 128 := by
    intro d hd hcd
    exact Nat.lt_of_le_of_lt (UInt32.le_iff_toNat_le.mp hcd) hd
  simp only [isHead, isLetterOrDigit, Bool.or_eq_true, Bool.and_eq_true, decide_eq_true_eq,
    beq_iff_eq] at h
  rcases h with ((⟨_, h⟩ | ⟨_, h⟩) | ⟨_, h⟩) | rfl
  · exact hle (by decide) h
  · exact hle (by decide) h
  · exact hle (by decide) h
  · decide

theorem isHead_iff {c : Char} : isHead c = true ↔ c ∈ headCharacters := by
  have hascii : ∀ n < 128, isHead (Char.ofNat n) = true → Char.ofNat n ∈ headCharacters := by
    decide +kernel
  have hlist : headCharacters.all isHead = true := by decide +kernel
  constructor
  · intro h
    have hmem := hascii c.toNat (toNat_lt_of_isHead h)
    rw [Char.ofNat_toNat] at hmem
    exact hmem h
  · exact List.all_eq_true.mp hlist c

theorem isTail_iff {c : Char} : isTail c = true ↔ c ∈ tailCharacters := by
  simp [isTail, isHead_iff, tailCharacters, or_assoc]

theorem hasNameShape_iff {cs : List Char} : hasNameShape cs = true ↔
    ∃ first rest, cs = first :: rest ∧ first ∈ headCharacters ∧ ∀ c ∈ rest, c ∈ tailCharacters := by
  cases cs with
  | nil => simp [hasNameShape]
  | cons first rest => simp [hasNameShape, isHead_iff, isTail_iff]

/-- A name breaks no rule exactly when it has the form of one. -/
theorem fault?_eq_none_iff {name : String} : fault? name = none ↔ WellFormed name := by
  have hempty : name.isEmpty = true ↔ name.utf8ByteSize = 0 := by
    simp [String.isEmpty]
  unfold fault?
  constructor
  · intro h
    split at h
    next => cases h
    next hnonempty =>
      split at h
      next => cases h
      next hshort =>
        split at h
        next hshape =>
          rw [hempty] at hnonempty
          exact ⟨Nat.pos_of_ne_zero hnonempty, Nat.le_of_not_lt hshort, hasNameShape_iff.mp hshape⟩
        next => cases h
  · intro h
    have hpos := h.nonempty
    rw [if_neg (by rw [hempty]; omega), if_neg (show ¬ maxLength < _ from Nat.not_lt.mpr h.short),
      if_pos (hasNameShape_iff.mpr h.characters)]

end EventName

/-! ## Names of the registry -/

namespace RegistryEvent

theorem name_of_ofName? {name : String} {e : RegistryEvent} (h : ofName? name = some e) :
    e.name = name := by
  unfold ofName? at h
  split at h <;> cases h <;> rfl

theorem mem_registryNames {name : String} :
    name ∈ EventName.registryNames ↔ ∃ e : RegistryEvent, e.name = name := by
  change name ∈ all.map RegistryEvent.name ↔ _
  simp [mem_all]

theorem wellFormed_name (e : RegistryEvent) : EventName.WellFormed e.name := by
  rw [← EventName.fault?_eq_none_iff]
  cases e <;> decide +kernel

end RegistryEvent

/-! ## Types and their names -/

namespace EventType

variable {name other : String} {t u : EventType}

/-- A type is found again under its name. -/
theorem parse_name (t : EventType) : parse t.name = .ok t := by
  unfold parse
  cases t with
  | registry e =>
    split
    · next e' heq => rw [EventType.name, RegistryEvent.ofName?_name] at heq; cases heq; rfl
    · next heq => rw [EventType.name, RegistryEvent.ofName?_name] at heq; cases heq
  | custom t =>
    split
    · next e heq => rw [EventType.name, t.unregistered] at heq; cases heq
    split
    · next fault heq => rw [EventType.name, t.wellFormed] at heq; cases heq
    · rfl

theorem name_of_parse (h : parse name = .ok t) : t.name = name := by
  unfold parse at h
  split at h
  next e known =>
    obtain rfl := Except.ok.inj h
    exact RegistryEvent.name_of_ofName? known
  next =>
    split at h
    next => cases h
    next =>
      obtain rfl := Except.ok.inj h
      rfl

theorem wellFormed_name (t : EventType) : EventName.WellFormed t.name := by
  cases t with
  | registry e => exact e.wellFormed_name
  | custom t => exact EventName.fault?_eq_none_iff.mp t.wellFormed

theorem exists_parse_iff : (∃ t, parse name = .ok t) ↔ EventName.WellFormed name := by
  constructor
  · rintro ⟨t, h⟩
    rw [← name_of_parse h]
    exact t.wellFormed_name
  · intro h
    unfold parse
    split
    next e known => exact ⟨_, rfl⟩
    next =>
      split
      next fault sound =>
        rw [EventName.fault?_eq_none_iff.mpr h] at sound
        cases sound
      next => exact ⟨_, rfl⟩

theorem eq_iff_of_parse (ht : parse name = .ok t) (hu : parse other = .ok u) :
    t = u ↔ name = other := by
  constructor
  · rintro rfl
    rw [← name_of_parse ht, ← name_of_parse hu]
  · rintro rfl
    exact Except.ok.inj (ht.symm.trans hu)

theorem exists_registry_iff : (∃ e, t = .registry e) ↔ t.name ∈ EventName.registryNames := by
  rw [RegistryEvent.mem_registryNames]
  cases t with
  | registry e => exact iff_of_true ⟨e, rfl⟩ ⟨e, rfl⟩
  | custom c =>
      refine iff_of_false (by rintro ⟨e, h⟩; cases h) ?_
      rintro ⟨e, h⟩
      have hnone := c.unregistered
      rw [← show e.name = c.name from h, RegistryEvent.ofName?_name] at hnone
      cases hnone

/-- Names and types belong together, one to one:

* a text is accepted exactly when it has the form of a name;
* the type that it stands for has it as its name and is found again under it, and is a type of the
  registry or a custom one according to whether the name belongs to the registry;
* two names stand for one type exactly when they are the same, and only then does a handler that is
  subscribed or unsubscribed under the one come or go under the other. -/
theorem names_tell_types_apart (name : String) :
    ((∃ t, parse name = .ok t) ↔ EventName.WellFormed name) ∧
      (∀ t, parse name = .ok t →
        t.name = name ∧ parse t.name = .ok t ∧
          ((∃ e, t = .registry e) ↔ name ∈ EventName.registryNames) ∧
          ((∃ c, t = .custom c) ↔ name ∉ EventName.registryNames)) ∧
      ∀ other t u, parse name = .ok t → parse other = .ok u →
        (t = u ↔ name = other) ∧
          ∀ {Handler : Type} [DecidableEq Handler] (r : Registry Handler) (h : Handler),
            (h ∉ r.handlers u → (h ∈ (r.subscribe t h).2.handlers u ↔ name = other)) ∧
              (h ∈ r.handlers u → (h ∉ (r.unsubscribe t h).2.handlers u ↔ name = other)) := by
  refine ⟨exists_parse_iff, ?_, ?_⟩
  · intro t h
    obtain rfl := name_of_parse h
    refine ⟨rfl, h, exists_registry_iff, ?_⟩
    rw [← exists_registry_iff]
    cases t <;> simp
  · intro other t u ht hu
    have heq := eq_iff_of_parse ht hu
    refine ⟨heq, ?_⟩
    intro Handler _ r h
    rw [← heq, Registry.handlers_subscribe, Registry.handlers_unsubscribe]
    constructor
    · intro hnot
      by_cases htype : t = u
      · subst htype
        simp [hnot]
      · simp [htype, hnot]
    · intro hmem
      by_cases htype : t = u
      · simp [htype]
      · simp [htype, hmem]

end EventType

end EventFeed
