import EventFeed.Proofs.Config.Fields
import EventFeed.Proofs.Json.Objects

/-! # Configurations in data text

An object sets the fields that it names, and the others have their defaults. It is a configuration
exactly when each of its keys is the name of a field, stands there once, and has a value of the type
and the range of that field; order and spacing do not matter. Every configuration is read back from
its own text.
-/

namespace EventFeed

namespace Config

open Json (Cursor MembersText MemberStart ObjectText readValue)

/-- A value of the type and the range of a field. -/
inductive Field.Accepts : Field → Json → Prop
  | text (s : String) : Accepts .endpoint (.str s)
  | number {field : Field} {n : Nat} : field ≠ .endpoint → n ≤ field.largest →
      Accepts field (.int n)

/-- From one configuration to another exactly the fields of these members are set, each once and to
a value that it accepts. -/
structure Sets (start : Config) (written : List (String × Json)) (c : Config) : Prop where
  once : (written.map (·.1)).Nodup
  set : ∀ m ∈ written, ∃ field : Field,
    field.name = m.1 ∧ field.Accepts m.2 ∧ c.fieldJson field = m.2
  rest : ∀ field : Field, field.name ∉ written.map (·.1) →
    c.fieldJson field = start.fieldJson field

variable {c c' start next : Config} {field : Field} {v : Json}

theorem Field.ofName?_eq_some {name : String} : ofName? name = some field ↔ field.name = name := by
  constructor
  · exact Field.name_of_ofName?
  · rintro rfl
    cases field <;> rfl

/-! ## One field -/

theorem number_lt (c : Config) (field : Field) : c.number field < 2 ^ field.bits := by
  cases field with
  | endpoint => exact Nat.two_pow_pos _
  | maxReconnectAttempts => exact UInt32.toNat_lt _
  | _ => exact UInt64.toNat_lt _

/-- The value of a field is one that the field accepts. -/
theorem accepts_fieldJson (c : Config) (field : Field) : field.Accepts (c.fieldJson field) := by
  by_cases hfield : field = .endpoint
  · subst hfield
    exact .text c.endpoint
  · rw [fieldJson_of_ne hfield]
    exact .number hfield (Field.le_largest_iff.mpr (c.number_lt field))

theorem toUnsigned_eq_ok {bits n : Nat} :
    v.found.toUnsigned bits = .ok n ↔ v = .int n ∧ n < 2 ^ bits := by
  constructor
  · intro h
    have hlt := lt_of_toUnsigned h
    refine ⟨?_, hlt⟩
    obtain ⟨k, hk, hn⟩ := exists_of_bind_ok h
    cases v with
    | int m =>
      simp only [Json.found, Found.toIntIn] at hk
      split at hk
      next hrange =>
        obtain rfl : m = k := Except.ok.inj hk
        obtain rfl : m.toNat = n := Except.ok.inj hn
        rw [Int.toNat_of_nonneg hrange.1]
      next => cases hk
    | _ => cases hk
  · rintro ⟨rfl, hlt⟩
    have hcast : ((2 ^ bits : Nat) : Int) = 2 ^ bits := by simp
    have hrange : 0 ≤ (n : Int) ∧ (n : Int) ≤ 2 ^ bits - 1 := by omega
    simp only [Json.found, Found.toUnsigned, Found.toIntIn, if_pos hrange]
    rfl

theorem toText_eq_ok {s : String} : v.found.toText = .ok s ↔ v = .str s := by
  cases v with
  | str t => simp [Json.found, Found.toText]
  | _ => simp [Json.found, Found.toText]

theorem assign_of_ne {found : Found} (h : field ≠ .endpoint) :
    start.assign field found =
      (found.toUnsigned field.bits >>= fun n => .ok (start.setNumber field n)) := by
  cases field with
  | endpoint => exact absurd rfl h
  | _ => rfl

theorem assign_of_accepts (h : field.Accepts v) (start : Config) :
    ∃ next, start.assign field v.found = .ok next := by
  cases h with
  | text s => exact ⟨_, rfl⟩
  | @number _ n hfield hn =>
    have hread : (Json.int n).found.toUnsigned field.bits = .ok n :=
      toUnsigned_eq_ok.mpr ⟨rfl, Field.le_largest_iff.mp hn⟩
    rw [assign_of_ne hfield, hread]
    exact ⟨_, rfl⟩

/-- Assigning succeeds with values that the field accepts, and sets that field alone. -/
theorem assign_eq_ok :
    start.assign field v.found = .ok next ↔ field.Accepts v ∧ next.fieldJson field = v ∧
      ∀ other, other ≠ field → next.fieldJson other = start.fieldJson other := by
  have hassigned : ∀ {next}, start.assign field v.found = .ok next →
      field.Accepts v ∧ next.fieldJson field = v ∧
        ∀ other, other ≠ field → next.fieldJson other = start.fieldJson other := by
    intro next h
    by_cases hfield : field = .endpoint
    · subst hfield
      obtain ⟨s, hs, h⟩ := exists_of_bind_ok h
      obtain rfl := toText_eq_ok.mp hs
      cases h
      refine ⟨.text s, rfl, ?_⟩
      intro other hother
      cases other with
      | endpoint => exact absurd rfl hother
      | _ => rfl
    · rw [assign_of_ne hfield] at h
      obtain ⟨n, hread, h⟩ := exists_of_bind_ok h
      cases h
      obtain ⟨rfl, hn⟩ := toUnsigned_eq_ok.mp hread
      refine ⟨.number hfield (Field.le_largest_iff.mpr hn), fieldJson_setNumber hfield hn, ?_⟩
      intro other hother
      exact fieldJson_setNumber_of_ne n hother
  constructor
  · exact hassigned
  · rintro ⟨haccepts, hvalue, hothers⟩
    obtain ⟨next', hnext'⟩ := assign_of_accepts haccepts start
    obtain ⟨-, hvalue', hothers'⟩ := hassigned hnext'
    have heq : next' = next := by
      refine ext_fieldJson fun other => ?_
      by_cases hother : other = field
      · rw [hother, hvalue', hvalue]
      · rw [hothers' other hother, hothers other hother]
    rw [hnext', heq]

/-! ## One member after another -/

variable {key : String} {members : List (String × Json)}

theorem sets_nil : Sets start [] c ↔ c = start := by
  constructor
  · intro h
    exact ext_fieldJson fun field => h.rest field (by simp)
  · rintro rfl
    exact ⟨List.nodup_nil, by simp, fun _ _ => rfl⟩

/-- The first member is assigned and the others set what is left. -/
theorem sets_cons : Sets start ((key, v) :: members) c ↔
    ∃ field next, Field.ofName? key = some field ∧ start.assign field v.found = .ok next ∧
      field.name ∉ members.map (·.1) ∧ Sets next members c := by
  constructor
  · intro h
    obtain ⟨hkey, honce⟩ := List.nodup_cons.mp h.once
    obtain ⟨⟨field, hname, haccepts, hvalue⟩, hset⟩ := List.forall_mem_cons.mp h.set
    obtain rfl : field.name = key := hname
    obtain ⟨next, hnext⟩ := assign_of_accepts haccepts start
    obtain ⟨-, hvalue', hothers⟩ := assign_eq_ok.mp hnext
    refine ⟨field, next, Field.ofName?_eq_some.mpr rfl, hnext, hkey, honce, hset, ?_⟩
    intro other hother
    by_cases heq : other = field
    · rw [heq, hvalue', hvalue]
    · rw [hothers other heq]
      refine h.rest other ?_
      intro hmem
      rcases List.mem_cons.mp hmem with hname | hmem
      · exact heq (Field.name_injective hname)
      · exact hother hmem
  · rintro ⟨field, next, hname, hnext, hkey, h⟩
    obtain rfl := Field.ofName?_eq_some.mp hname
    obtain ⟨haccepts, hvalue, hothers⟩ := assign_eq_ok.mp hnext
    refine ⟨List.nodup_cons.mpr ⟨hkey, h.once⟩, List.forall_mem_cons.mpr ⟨?_, h.set⟩, ?_⟩
    · exact ⟨field, rfl, haccepts, (h.rest field hkey).trans hvalue⟩
    · intro other hother
      have hne : other ≠ field := by
        rintro rfl
        exact hother List.mem_cons_self
      rw [h.rest other fun hmem => hother (List.mem_cons_of_mem _ hmem), hothers other hne]

/-! ## Reading -/

section Found

variable {fuel depth : Nat} {d e : Cursor}

/-- Looking at a scalar reads it. -/
theorem readFound_of_scalar (hlist : d.skipSpace.peek? ≠ some '[')
    (hobject : d.skipSpace.peek? ≠ some '\x7b') (h : readValue 1 0 d = .ok (v, e)) :
    readFound d.skipSpace = .ok (v.found, e) := by
  unfold readValue at h
  dsimp only at h
  split at h
  · cases h
  next ch rest hrest =>
  have hpeek := Json.Cursor.peek?_of_rest hrest
  split at h
  · next hch =>
    subst hch
    obtain ⟨e', hword, h⟩ := exists_of_bind_ok h
    cases h
    simp only [readFound, hpeek, hword]
    rfl
  split at h
  · next hch =>
    subst hch
    obtain ⟨e', hword, h⟩ := exists_of_bind_ok h
    cases h
    simp only [readFound, hpeek, hword]
    rfl
  split at h
  · next hch =>
    subst hch
    obtain ⟨e', hword, h⟩ := exists_of_bind_ok h
    cases h
    simp only [readFound, hpeek, hword]
    rfl
  split at h
  · next hnull htrue hfalse hnumber =>
    obtain ⟨⟨x, e'⟩, hread, h⟩ := exists_of_bind_ok h
    cases h
    have hquote : ch ≠ '"' := by
      rintro rfl
      exact absurd hnumber (by decide)
    have hbracket : ch ≠ '[' := fun heq => hlist (heq ▸ hpeek)
    have hbrace : ch ≠ '\x7b' := fun heq => hobject (heq ▸ hpeek)
    unfold readFound
    rw [hpeek]
    simp [hnumber, hread, Functor.map, Except.map]
  split at h
  · next hch =>
    subst hch
    obtain ⟨⟨s, e'⟩, hread, h⟩ := exists_of_bind_ok h
    cases h
    simp only [readFound, hpeek, hread]
    rfl
  split at h
  · cases h
  split at h
  · cases h
  · cases h

/-- Looking at a value for a field finds what the value is, and stops behind it unless it is a list
or an object. -/
theorem readFound_of_readValue (h : readValue fuel depth d = .ok (v, e)) :
    ∃ e', readFound d.skipSpace = .ok (v.found, e') ∧
      ((∀ items, v ≠ .arr items) → (∀ members, v ≠ .obj members) → e' = e) := by
  cases fuel with
  | zero =>
    simp only [readValue] at h
    cases h
  | succ fuel =>
  by_cases hlist : d.skipSpace.peek? = some '['
  · obtain ⟨_, items, -, -, rfl⟩ := (Json.readValue_list_eq_ok hlist).mp h
    refine ⟨d.skipSpace, ?_, fun hitems => absurd rfl (hitems items)⟩
    simp only [readFound, hlist]
    rfl
  by_cases hobject : d.skipSpace.peek? = some '\x7b'
  · obtain ⟨_, members, -, -, rfl⟩ := (Json.readValue_object_eq_ok hobject).mp h
    refine ⟨d.skipSpace, ?_, fun _ hmembers => absurd rfl (hmembers members)⟩
    simp only [readFound, hobject]
    rfl
  · rw [Json.readValue_scalar hlist hobject] at h
    exact ⟨e, readFound_of_scalar hlist hobject h, fun _ _ => rfl⟩

end Found

variable {fuel depth : Nat} {first : Bool} {seen : List Field} {d e : Cursor}

theorem lift_ok {α : Type} (a : α) : lift (.ok a) = .ok a := rfl

theorem lift_eq_ok {α : Type} {r : Except Json.ReadError α} {a : α} :
    lift r = .ok a ↔ r = .ok a := by
  cases r with
  | error error =>
    constructor
    · intro h
      cases h
    · intro h
      cases h
  | ok b => simp [lift_ok]

/-- A field is read from any value that it accepts, and from no other. -/
theorem readField_eq_ok (h : readValue fuel depth d = .ok (v, e)) {e' : Cursor} :
    readField start field d = .ok (next, e') ↔
      start.assign field v.found = .ok next ∧ e' = e := by
  obtain ⟨e'', hfound, hplace⟩ := readFound_of_readValue h
  have hscalar : ∀ {next}, start.assign field v.found = .ok next → e'' = e := by
    intro next hnext
    obtain ⟨haccepts, -⟩ := assign_eq_ok.mp hnext
    cases haccepts with
    | text s => exact hplace (by simp) (by simp)
    | number _ _ => exact hplace (by simp) (by simp)
  unfold readField
  rw [hfound]
  cases hassign : start.assign field v.found with
  | error error => simp [lift_ok, bind, Except.bind, hassign, throw, throwThe, MonadExceptOf.throw]
  | ok c =>
    obtain rfl := hscalar hassign
    simp [lift_ok, bind, Except.bind, hassign, pure, Except.pure, eq_comm]

/-- Reads on from the place where a member has to start. -/
def readFrom (fuel : Nat) (seen : List Field) (config : Config) (c : Cursor) :
    Except TextError (Config × Cursor) :=
  if c.peek? ≠ some '"' then lift (c.refuse .keyNotString)
  else do
    let (key, c) ← lift (Json.Strings.read c.bump)
    match Field.ofName? key with
    | none => throw (.shape (unknownField key) (keyErrorPosition c))
    | some field =>
      if field ∈ seen then throw (.shape (.duplicateField key) (keyErrorPosition c))
      else
        let c := c.skipSpace
        match c.peek? with
        | none => lift (c.refuse .endInObject)
        | some ':' =>
          let (config, c) ← readField config field c.bump
          readMembers fuel false (field :: seen) config c
        | some _ => lift (c.refuse .expectedColon)

theorem readFrom_eq_ok :
    readFrom fuel seen start d = .ok (c, e) ↔ d.peek? = some '"' ∧
      ∃ key d₁ field next d₂, Json.Strings.read d.bump = .ok (key, d₁) ∧
        Field.ofName? key = some field ∧ field ∉ seen ∧ d₁.skipSpace.peek? = some ':' ∧
        readField start field d₁.skipSpace.bump = .ok (next, d₂) ∧
        readMembers fuel false (field :: seen) next d₂ = .ok (c, e) := by
  constructor
  · intro h
    unfold readFrom at h
    split at h
    · cases lift_eq_ok.mp h
    next hquote =>
    refine ⟨Classical.not_not.mp hquote, ?_⟩
    obtain ⟨⟨key, d₁⟩, hkey, h⟩ := exists_of_bind_ok h
    dsimp only at h
    split at h
    · cases h
    next field hname =>
    split at h
    · cases h
    next hseen =>
    split at h
    · cases lift_eq_ok.mp h
    · next hcolon =>
      obtain ⟨⟨next, d₂⟩, hfield, h⟩ := exists_of_bind_ok h
      exact ⟨key, d₁, field, next, d₂, lift_eq_ok.mp hkey, hname, hseen, hcolon, hfield, h⟩
    · cases lift_eq_ok.mp h
  · rintro ⟨hquote, key, d₁, field, next, d₂, hkey, hname, hseen, hcolon, hfield, h⟩
    simp [readFrom, hquote, lift_eq_ok.mpr hkey, hname, hseen, hcolon, hfield, h, bind,
      Except.bind]

/-- An object ends at its brace, or goes on with a member of a field that has not been read. -/
theorem readMembers_eq_ok :
    readMembers (fuel + 1) first seen start d = .ok (c, e) ↔
      (d.skipSpace.peek? = some '\x7d' ∧ c = start ∧ e = d.skipSpace.bump) ∨
        ∃ d₁, MemberStart first d d₁ ∧ readFrom fuel seen start d₁ = .ok (c, e) := by
  constructor
  · intro h
    unfold readMembers at h
    dsimp only at h
    split at h
    · cases lift_eq_ok.mp h
    · next hbrace =>
      cases h
      exact .inl ⟨hbrace, rfl, rfl⟩
    next ch _ hpeek =>
    cases first with
    | true =>
      have h : readFrom fuel seen start d.skipSpace = .ok (c, e) := h
      refine .inr ⟨d.skipSpace, ⟨?_, (readFrom_eq_ok.mp h).1⟩, h⟩
      rw [if_pos rfl]
    | false =>
      rw [if_neg Bool.false_ne_true] at h
      split at h
      next hcomma =>
        split at h
        · obtain ⟨_, hfault, -⟩ := exists_of_bind_ok h
          cases lift_eq_ok.mp hfault
        · obtain ⟨_, hfault, -⟩ := exists_of_bind_ok h
          cases lift_eq_ok.mp hfault
        · have h : readFrom fuel seen start d.skipSpace.bump.skipSpace = .ok (c, e) := h
          refine .inr ⟨d.skipSpace.bump.skipSpace, ⟨?_, (readFrom_eq_ok.mp h).1⟩, h⟩
          rw [if_neg Bool.false_ne_true]
          exact ⟨hcomma ▸ hpeek, rfl⟩
      next =>
        obtain ⟨_, hfault, -⟩ := exists_of_bind_ok h
        cases lift_eq_ok.mp hfault
  · rintro (⟨hbrace, rfl, rfl⟩ | ⟨d₁, ⟨hplace, hquote⟩, h⟩)
    · simp [readMembers, hbrace, pure, Except.pure]
    · obtain ⟨-, key, d₂, field, next, d₃, hkey, hname, hseen, hcolon, hfield, hrest⟩ :=
        readFrom_eq_ok.mp h
      have hread := lift_eq_ok.mpr hkey
      cases first with
      | true =>
        rw [if_pos rfl] at hplace
        subst hplace
        simp [readMembers, hquote, hread, hname, hseen, hcolon, hfield, hrest, bind, Except.bind,
          pure, Except.pure]
      | false =>
        rw [if_neg Bool.false_ne_true] at hplace
        obtain ⟨hcomma, rfl⟩ := hplace
        simp [readMembers, hcomma, hquote, hread, hname, hseen, hcolon, hfield, hrest, bind,
          Except.bind, pure, Except.pure]

/-- Reading the text of members sets them. The induction is on the text; each member that is read
takes its field from those that may still come. -/
theorem readMembers_of_text {written : List (String × Json)} {e' : Cursor}
    (h : MembersText depth first d written e) (hfuel : written.length < fuel) :
    readMembers fuel first seen start d = .ok (c, e') ↔
      e' = e ∧ Sets start written c ∧ ∀ field ∈ seen, field.name ∉ written.map (·.1) := by
  induction h generalizing fuel seen start with
  | @close first d hbrace =>
    obtain ⟨fuel, rfl⟩ : ∃ k, fuel = k + 1 := ⟨fuel - 1, by omega⟩
    rw [readMembers_eq_ok, sets_nil]
    constructor
    · rintro (⟨-, rfl, rfl⟩ | ⟨d₁, hstart, -⟩)
      · exact ⟨rfl, rfl, by simp⟩
      · exact absurd hbrace hstart.not_close
    · rintro ⟨rfl, rfl, -⟩
      exact .inl ⟨hbrace, rfl, rfl⟩
  | @member first d d₁ d₂ d₃ e key fuel' v written hstart hkey hcolon hvalue _ ih =>
    obtain ⟨fuel, rfl⟩ : ∃ k, fuel = k + 1 := ⟨fuel - 1, by omega⟩
    have hroom : written.length < fuel := by
      rw [List.length_cons] at hfuel
      omega
    rw [readMembers_eq_ok, sets_cons]
    constructor
    · rintro (⟨hbrace, -, -⟩ | ⟨d₁', hstart', h⟩)
      · exact absurd hbrace hstart.not_close
      obtain rfl := hstart.unique hstart'
      obtain ⟨-, key', d₂', field, next, d₃', hkey', hname, hseen, -, hfield, h⟩ :=
        readFrom_eq_ok.mp h
      cases hkey.symm.trans hkey'
      obtain ⟨hassign, rfl⟩ := (readField_eq_ok hvalue).mp hfield
      obtain ⟨rfl, hsets, hdistinct⟩ := (ih hroom).mp h
      obtain ⟨hnew, hdistinct⟩ := List.forall_mem_cons.mp hdistinct
      refine ⟨rfl, ⟨field, next, hname, hassign, hnew, hsets⟩, ?_⟩
      intro other hother hmem
      rcases List.mem_cons.mp hmem with hkey | hmem
      · obtain rfl := Field.name_injective (hkey.trans (Field.name_of_ofName? hname).symm)
        exact hseen hother
      · exact hdistinct other hother hmem
    · rintro ⟨rfl, ⟨field, next, hname, hassign, hnew, hsets⟩, hdistinct⟩
      have hseen : field ∉ seen := by
        intro hmem
        refine hdistinct field hmem ?_
        rw [Field.name_of_ofName? hname]
        exact List.mem_cons_self
      have hrest : readMembers fuel false (field :: seen) next d₃ = .ok (c, e') := by
        refine (ih hroom).mpr ⟨rfl, hsets, List.forall_mem_cons.mpr ⟨hnew, ?_⟩⟩
        intro other hother hmem
        exact hdistinct other hother (List.mem_cons_of_mem _ hmem)
      refine .inr ⟨d₁, hstart, readFrom_eq_ok.mpr ⟨hstart.quote, key, d₂, field, next, d₃, hkey,
        hname, hseen, hcolon, ?_, hrest⟩⟩
      exact (readField_eq_ok hvalue).mpr ⟨hassign, rfl⟩

/-- The text of an object is a configuration exactly when its members set one. -/
theorem parse_eq_ok {raw : String} {written : List (String × Json)}
    (h : ObjectText depth raw written) : parse raw = .ok c ↔ Sets {} written c := by
  obtain ⟨e, htext, hfinish⟩ := h.members
  have hroom : written.length < (Cursor.ofString raw).skipSpace.rest.length + 1 := by
    have := htext.length_lt
    have := Json.Cursor.length_bump (Cursor.ofString raw).skipSpace
    omega
  unfold parse
  dsimp only
  rw [h.brace]
  constructor
  · intro hparse
    obtain ⟨⟨c', e'⟩, hread, hparse⟩ := exists_of_bind_ok hparse
    obtain ⟨_, -, hparse⟩ := exists_of_bind_ok hparse
    cases hparse
    exact ((readMembers_of_text htext hroom).mp hread).2.1
  · intro hsets
    have hread : readMembers ((Cursor.ofString raw).skipSpace.rest.length + 1) true [] {}
        (Cursor.ofString raw).skipSpace.bump = .ok (c, e) :=
      (readMembers_of_text htext hroom).mpr ⟨rfl, hsets, by simp⟩
    rw [hread]
    change (lift (Json.finishText e) >>= fun _ => .ok c) = .ok c
    rw [lift_eq_ok.mpr hfinish]
    rfl

theorem Sets.unique {written : List (String × Json)} (h : Sets start written c)
    (h' : Sets start written c') : c = c' := by
  induction written generalizing start with
  | nil => rw [sets_nil.mp h, sets_nil.mp h']
  | cons m rest ih =>
    obtain ⟨field, next, hname, hassign, -, h⟩ := sets_cons.mp h
    obtain ⟨field', next', hname', hassign', -, h'⟩ := sets_cons.mp h'
    obtain rfl : field = field' := Option.some.inj (hname.symm.trans hname')
    obtain rfl : next = next' := Except.ok.inj (hassign.symm.trans hassign')
    exact ih h h'

theorem exists_sets {written : List (String × Json)} (honce : (written.map (·.1)).Nodup)
    (haccepts : ∀ m ∈ written, ∃ field : Field, field.name = m.1 ∧ field.Accepts m.2)
    (start : Config) : ∃ c, Sets start written c := by
  induction written generalizing start with
  | nil => exact ⟨start, sets_nil.mpr rfl⟩
  | cons m rest ih =>
    obtain ⟨hnew, honce⟩ := List.nodup_cons.mp honce
    obtain ⟨⟨field, hname, hfield⟩, haccepts⟩ := List.forall_mem_cons.mp haccepts
    obtain ⟨next, hnext⟩ := assign_of_accepts hfield start
    obtain ⟨c, hc⟩ := ih honce haccepts next
    refine ⟨c, sets_cons.mpr ⟨field, next, Field.ofName?_eq_some.mpr hname, hnext, ?_, hc⟩⟩
    rw [hname]
    exact hnew

/-! ## The text of a configuration -/

/-- All fields of a configuration, each with its value, set that configuration. -/
theorem sets_toMembers (c : Config) : Sets {} c.toMembers c := by
  have hnames : c.toMembers.map (·.1) = Field.all.map Field.name := by
    rw [toMembers, List.map_map]
    rfl
  refine ⟨?_, ?_, ?_⟩
  · rw [hnames]
    decide
  · intro m hm
    obtain ⟨field, -, rfl⟩ := List.mem_map.mp hm
    exact ⟨field, rfl, c.accepts_fieldJson field, rfl⟩
  · intro field hfield
    rw [hnames] at hfield
    exact absurd (List.mem_map_of_mem (by cases field <;> decide)) hfield

theorem Field.Accepts.readsBack (h : field.Accepts v) (depth : Nat) : Json.ReadsBack depth v := by
  have hreal : v.hasReal = false := by cases h <;> rfl
  have hfits : v.Fits depth := by
    cases h with
    | text s => exact .str s
    | @number _ n _ hn =>
      have hbound : n ≤ 2 ^ 64 - 1 := by
        unfold Field.largest at hn
        split at hn <;> omega
      refine .int ?_ ?_
      · simp only [Json.minInt]
        omega
      · simp only [Json.maxInt]
        omega
  intro fuel rest p
  exact Json.readsBack_of_fits hfits hreal p

theorem objectText_text (c : Config) : ObjectText depth c.text c.toMembers := by
  refine Json.objectText_recordText ?_
  intro m hm
  obtain ⟨field, -, rfl⟩ := List.mem_map.mp hm
  exact (c.accepts_fieldJson field).readsBack depth

/-- Configurations and data text.

Every configuration is read back from its own text. The text of an object, however it is spaced and
ordered, is the configuration whose fields its members set, if each key names a field that no other
key names and each value is one that the field accepts; then there is exactly one such
configuration. The text of any other object is refused. -/
theorem data_text_sets_fields :
    (∀ c : Config, parse c.text = .ok c) ∧
    (∀ raw members, Json.parse raw = .ok (.obj members) →
      ∃ written, ObjectText (Json.depthLimit - 1) raw written) ∧
    ∀ depth raw written, ObjectText depth raw written →
      (∀ c, parse raw = .ok c ↔ Sets {} written c) ∧
      ((written.map (·.1)).Nodup →
        (∀ m ∈ written, ∃ field : Field, field.name = m.1 ∧ field.Accepts m.2) →
        ∃ c, parse raw = .ok c ∧ Sets {} written c ∧ ∀ c', Sets {} written c' → c' = c) ∧
      ((∃ m ∈ written, ∀ field : Field, field.name = m.1 → ¬ field.Accepts m.2) →
        ∃ error, parse raw = .error error) := by
  refine ⟨?_, ?_, ?_⟩
  · intro c
    have htext : ObjectText 0 c.text c.toMembers := objectText_text c
    exact (parse_eq_ok htext).mpr (sets_toMembers c)
  · intro raw members hparse
    obtain ⟨written, htext, -⟩ := Json.exists_objectText_of_parse hparse
    exact ⟨written, htext⟩
  · intro depth raw written htext
    refine ⟨fun c => parse_eq_ok htext, ?_, ?_⟩
    · intro honce haccepts
      obtain ⟨c, hsets⟩ := exists_sets honce haccepts {}
      exact ⟨c, (parse_eq_ok htext).mpr hsets, hsets, fun c' hc' => hc'.unique hsets⟩
    · rintro ⟨m, hm, hrefused⟩
      cases hparse : parse raw with
      | error error => exact ⟨error, rfl⟩
      | ok c =>
        obtain ⟨field, hname, haccepts, -⟩ := ((parse_eq_ok htext).mp hparse).set m hm
        exact absurd haccepts (hrefused field hname)

end Config

end EventFeed
