import EventFeed.Proofs.Config.Validity
import EventFeed.Proofs.Text.Integers
import EventFeed.Proofs.Toml.Members

/-! # Where the fields of a configuration come from

A field takes its value from what stands for it: from a text, from a value of the configuration
file, or from nothing but the default. Whatever is read for one field leaves the others alone.
-/

namespace EventFeed

/-- A number that is read from a text is below its limit. -/
theorem Text.lt_of_parseUnsigned {limit n : Nat} {s : String} (hlimit : 0 < limit)
    (h : Text.parseUnsigned limit s = .ok n) : n < limit :=
  ((Text.parseUnsigned_eq_ok hlimit).mp h).2

namespace Config

/-- The largest number of a numeric field: the attempts have 32 bits, all others 64. -/
def Field.largest (field : Field) : Nat :=
  if field = .maxReconnectAttempts then 2 ^ 32 - 1 else 2 ^ 64 - 1

theorem Field.le_largest_iff {field : Field} {n : Nat} :
    n ≤ field.largest ↔ n < 2 ^ field.bits := by
  have hlargest : field.largest = 2 ^ field.bits - 1 := by cases field <;> rfl
  have hpos : 0 < 2 ^ field.bits := Nat.two_pow_pos _
  rw [hlargest]
  omega

/-- What can stand for the value of a field. -/
inductive Definition where
  | text (value : String)
  | item (value : Toml.Value)
  | standard

/-- The value of a field, as what was found in its place. -/
def Field.value? (field : Field) (found : Found) : Option Json :=
  match field with
  | .endpoint => found.toText.toOption.map .str
  | _ => (found.toUnsigned field.bits).toOption.map fun n => .int n

namespace Definition

/-- The value that a field takes from what stands for it. -/
def value? (field : Field) : Definition → Option Json
  | text s =>
    match field with
    | .endpoint => some (.str s)
    | _ => (Text.parseUnsigned (2 ^ field.bits) (Text.trim s)).toOption.map fun n => .int n
  | item v => (foundInFile v).toOption.bind field.value?
  | standard => some (({} : Config).fieldJson field)

theorem value?_text_of_ne {field : Field} {s : String} (h : field ≠ .endpoint) :
    (Definition.text s).value? field =
      (Text.parseUnsigned (2 ^ field.bits) (Text.trim s)).toOption.map fun n => .int n := by
  cases field with
  | endpoint => exact absurd rfl h
  | _ =>
      simp only [value?]
      cases (Text.parseUnsigned _ (Text.trim s)).toOption <;> rfl

end Definition

/-- Between two configurations a field has taken the value of what stands for it; without anything
that does it is as it was. -/
def Takes (c c' : Config) (field : Field) : Option Definition → Prop
  | some d => d.value? field = some (c'.fieldJson field)
  | none => c'.fieldJson field = c.fieldJson field

variable {c c' c'' : Config} {field : Field} {d d' : Option Definition}

theorem Takes.trans (h : c.Takes c' field d) (h' : c'.Takes c'' field d') :
    c.Takes c'' field (d'.or d) := by
  cases d' with
  | some _ => exact h'
  | none =>
      rw [Option.none_or]
      cases d with
      | some definition => exact h.trans (congrArg some h'.symm)
      | none => exact h'.trans h

/-- A field of the defaults that has taken no value stands for itself. -/
theorem Takes.value? (h : ({} : Config).Takes c field d) :
    (d.getD .standard).value? field = some (c.fieldJson field) := by
  cases d with
  | some _ => exact h
  | none => exact congrArg some h.symm

/-! ## One field -/

theorem fieldJson_of_ne (h : field ≠ .endpoint) : c.fieldJson field = .int (c.number field) := by
  cases field with
  | endpoint => exact absurd rfl h
  | _ => rfl

/-- A configuration is known by the values of its fields. -/
theorem ext_fieldJson (h : ∀ field, c.fieldJson field = c'.fieldJson field) : c = c' := by
  have hnumber : ∀ field, field ≠ .endpoint → c.number field = c'.number field := by
    intro field hfield
    have hjson := h field
    rw [fieldJson_of_ne hfield, fieldJson_of_ne hfield] at hjson
    exact Int.ofNat.inj (Json.int.inj hjson)
  have hbase := UInt64.toNat_inj.mp (hnumber .baseReconnectDelay (by decide))
  have hmax := UInt64.toNat_inj.mp (hnumber .maxReconnectDelay (by decide))
  have hattempts := UInt32.toNat_inj.mp (hnumber .maxReconnectAttempts (by decide))
  have hinterval := UInt64.toNat_inj.mp (hnumber .heartbeatInterval (by decide))
  have htimeout := UInt64.toNat_inj.mp (hnumber .heartbeatTimeout (by decide))
  have hconnect := UInt64.toNat_inj.mp (hnumber .connectTimeout (by decide))
  obtain ⟨⟩ := c
  obtain ⟨⟩ := c'
  rw [Config.mk.injEq]
  exact ⟨Json.str.inj (h .endpoint), hbase, hmax, hattempts, hinterval, htimeout, hconnect⟩

theorem fieldJson_setNumber {n : Nat} (hfield : field ≠ .endpoint) (hn : n < 2 ^ field.bits) :
    (c.setNumber field n).fieldJson field = .int n := by
  cases field with
  | endpoint => exact absurd rfl hfield
  | maxReconnectAttempts =>
      simp only [fieldJson, setNumber, number]
      rw [UInt32.toNat_ofNat_of_lt' hn]
  | _ =>
      simp only [fieldJson, setNumber, number]
      rw [UInt64.toNat_ofNat_of_lt' hn]

theorem fieldJson_setNumber_of_ne (n : Nat) {other : Field} (h : other ≠ field) :
    (c.setNumber field n).fieldJson other = c.fieldJson other := by
  cases field <;> cases other <;> first | rfl | exact absurd rfl h

theorem lt_of_toUnsigned {found : Found} {bits n : Nat} (h : found.toUnsigned bits = .ok n) :
    n < 2 ^ bits := by
  obtain ⟨k, hk, hn⟩ := exists_of_bind_ok h
  unfold Found.toIntIn at hk
  split at hk
  · split at hk
    next hrange =>
      rw [← Except.ok.inj hn, ← Except.ok.inj hk]
      have hcast : ((2 ^ bits : Nat) : Int) = 2 ^ bits := by simp
      omega
    next => cases hk
  · cases hk

/-- Assigning a value to a field is taking it there, and leaves the other fields alone. -/
theorem takes_assign {found : Found} {definition : Definition}
    (h : c.assign field found = .ok c') (hdefinition : definition.value? field = field.value? found)
    (f : Field) : c.Takes c' f (if f = field then some definition else none) := by
  by_cases hendpoint : field = .endpoint
  · subst hendpoint
    obtain ⟨text, htext, h⟩ := exists_of_bind_ok h
    rw [← Except.ok.inj h]
    split
    next heq =>
      rw [Takes, heq, hdefinition]
      simp [Field.value?, htext, Except.toOption, fieldJson]
    next hne =>
      cases f with
      | endpoint => exact absurd rfl hne
      | _ => rfl
  · have hnumber : ∃ n, found.toUnsigned field.bits = .ok n ∧ c.setNumber field n = c' := by
      cases field with
      | endpoint => exact absurd rfl hendpoint
      | _ =>
          obtain ⟨n, hn, h⟩ := exists_of_bind_ok h
          exact ⟨n, hn, Except.ok.inj h⟩
    obtain ⟨n, hn, rfl⟩ := hnumber
    split
    next heq =>
      rw [Takes, heq, hdefinition, fieldJson_setNumber hendpoint (lt_of_toUnsigned hn)]
      cases field with
      | endpoint => exact absurd rfl hendpoint
      | _ => simp [Field.value?, hn, Except.toOption]
    next hne => exact fieldJson_setNumber_of_ne n hne

/-! ## The configuration file -/

theorem Field.name_of_ofName? {name : String} {f : Field} (h : Field.ofName? name = some f) :
    f.name = name := by
  have hname := List.find?_some h
  exact beq_iff_eq.mp hname

theorem Field.name_injective {f g : Field} (h : f.name = g.name) : f = g := by
  cases f <;> cases g <;> first | rfl | exact absurd h (by decide)

/-- What stands for a field among the members of a table. -/
def definedAmong (members : Toml.Members) (field : Field) : Option Definition :=
  (members.find? field.name).map fun m => .item m.2

/-- What stands for a field in the configuration file. -/
def definedIn (file : FileContent) (field : Field) : Option Definition :=
  match file.text with
  | .ok (some source) => (Toml.parse source).toOption.bind fun members => definedAmong members field
  | _ => none

theorem takes_ofTable {members : Toml.Members} (hascending : members.Ascending)
    (h : ofTable members = .ok c) (f : Field) :
    ({} : Config).Takes c f (definedAmong members f) := by
  unfold ofTable at h
  generalize ({} : Config) = start at h ⊢
  induction members generalizing start with
  | nil =>
      rw [← Except.ok.inj h]
      exact rfl
  | cons member rest ih =>
      obtain ⟨⟨name, keySpan, valueSpan⟩, v⟩ := member
      rw [List.foldlM_cons] at h
      obtain ⟨next, hnext, h⟩ := exists_of_bind_ok h
      have hrest := ih (List.pairwise_cons.mp hascending).2 next h
      dsimp only at hnext
      split at hnext
      next => cases hnext
      next field hfield =>
        obtain rfl := Field.name_of_ofName? hfield
        split at hnext
        next => cases hnext
        next c₁ hassign =>
          cases hnext
          obtain ⟨found, hfound, hassign⟩ := exists_of_bind_ok hassign
          have hvalue : (Definition.item v).value? field = field.value? found := by
            simp [Definition.value?, hfound, Except.toOption]
          have hboth := (takes_assign hassign hvalue f).trans hrest
          have hmembers : definedAmong (((field.name, keySpan, valueSpan), v) :: rest) f =
              (definedAmong rest f).or (if f = field then some (.item v) else none) := by
            by_cases heq : f = field
            · subst heq
              have hnone := hascending.find?_eq_none
              simp only [definedAmong, hnone]
              simp [Toml.Members.find?]
            · have hbeq : (field.name == f.name) = false :=
                beq_false_of_ne fun hname => heq (Field.name_injective hname.symm)
              simp [definedAmong, Toml.Members.find?, hbeq, heq]
          rw [hmembers]
          exact hboth

theorem takes_load {path : String} {file : FileContent} (h : load path file = .ok c) (f : Field) :
    ({} : Config).Takes c f (definedIn file f) := by
  unfold definedIn
  rcases load_eq_ok.mp h with ⟨htext, rfl⟩ | ⟨source, htext, hread, _⟩
  · rw [htext]
    exact rfl
  · obtain ⟨members, hparse, htable⟩ := ofFileText_eq_ok.mp hread
    rw [htext]
    dsimp only
    rw [hparse]
    exact takes_ofTable (Toml.parse_ascending hparse) htable f

/-! ## The variables -/

/-- What stands for a field among the variables. -/
def definedBy (env : Environment) (field : Field) : Option Definition :=
  (env.text? field.envName).map .text

variable {env : Environment}

theorem takes_overrideNumber (hfield : field ≠ .endpoint)
    (h : overrideNumber env c field = .ok c') (f : Field) :
    c.Takes c' f (if f = field then definedBy env f else none) := by
  unfold overrideNumber at h
  cases htext : env.text? field.envName with
  | none =>
      rw [htext] at h
      rw [← Except.ok.inj h]
      split
      next heq =>
        rw [definedBy, heq, htext]
        exact rfl
      next => exact rfl
  | some value =>
      rw [htext] at h
      dsimp only at h
      cases hparse : Text.parseUnsigned (2 ^ field.bits) (Text.trim value) with
      | error fault =>
          rw [hparse] at h
          cases h
      | ok n =>
          rw [hparse] at h
          rw [← Except.ok.inj h]
          split
          next heq =>
            rw [definedBy, heq, htext, Option.map_some, Takes,
              fieldJson_setNumber hfield (Text.lt_of_parseUnsigned (Nat.two_pow_pos _) hparse)]
            cases field with
            | endpoint => exact absurd rfl hfield
            | _ => simp [Definition.value?, hparse, Except.toOption]
          next hne => exact fieldJson_setNumber_of_ne n hne

theorem takes_overrideEndpoint (f : Field) :
    c.Takes (c.overrideEndpoint env) f (if f = .endpoint then definedBy env f else none) := by
  unfold overrideEndpoint
  by_cases hf : f = .endpoint
  · subst hf
    rw [if_pos rfl, definedBy]
    cases env.text? Field.endpoint.envName with
    | none => exact rfl
    | some value => exact rfl
  · rw [if_neg hf]
    cases env.text? Field.endpoint.envName with
    | none => exact rfl
    | some value =>
        cases f with
        | endpoint => exact absurd rfl hf
        | _ => exact rfl

theorem takes_overrideNumbers {fields : List Field} (hfields : .endpoint ∉ fields)
    (hnodup : fields.Nodup) (h : fields.foldlM (overrideNumber env) c = .ok c') (f : Field) :
    c.Takes c' f (if f ∈ fields then definedBy env f else none) := by
  induction fields generalizing c with
  | nil =>
      rw [← Except.ok.inj h]
      exact rfl
  | cons field rest ih =>
      simp only [List.mem_cons, not_or] at hfields
      obtain ⟨hnot, hrest⟩ := List.nodup_cons.mp hnodup
      rw [List.foldlM_cons] at h
      obtain ⟨next, hnext, h⟩ := exists_of_bind_ok h
      have hboth := (takes_overrideNumber (Ne.symm hfields.1) hnext f).trans (ih hfields.2 hrest h)
      by_cases heq : f = field
      · subst heq
        rw [if_neg hnot, if_pos rfl] at hboth
        rw [if_pos List.mem_cons_self]
        exact hboth
      · rw [if_neg heq, Option.or_none] at hboth
        simp only [List.mem_cons, heq, false_or]
        exact hboth

/-- Once all variables have been applied, each field has taken what stands for it among them. -/
theorem takes_overrides
    (h : numericFields.foldlM (overrideNumber env) (c.overrideEndpoint env) = .ok c') (f : Field) :
    c.Takes c' f (definedBy env f) := by
  have hboth := (takes_overrideEndpoint f).trans
    (takes_overrideNumbers (by decide) (by decide) h f)
  by_cases hendpoint : f = .endpoint
  · rw [if_pos hendpoint, if_neg (by rw [hendpoint]; decide)] at hboth
    exact hboth
  · have hmem : f ∈ numericFields := by
      cases f with
      | endpoint => exact absurd rfl hendpoint
      | _ => decide
    rw [if_neg hendpoint, if_pos hmem, Option.or_none] at hboth
    exact hboth

theorem takes_applyEnvironment (h : c.applyEnvironment env = .ok c') (f : Field) :
    c.Takes c' f (definedBy env f) :=
  takes_overrides (applyEnvironment_eq_ok.mp h).1 f

end Config

end EventFeed
