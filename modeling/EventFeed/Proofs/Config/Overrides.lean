import EventFeed.Proofs.Config.Fields

/-! # What the variables make of a configuration

Each variable that is set replaces one field. A variable for a number must denote one that its field
can hold; the first that does not decides the outcome, whatever else is wrong. If there is none, the
configuration with the fields replaced is the outcome, provided that it is valid.
-/

namespace EventFeed

namespace Config

/-- A text for a numeric field that denotes a number of its width. -/
def Field.WellFormed (field : Field) (value : String) : Prop :=
  ∃ n, Text.Denotes value n ∧ n ≤ field.largest

/-- The configuration with exactly those fields replaced whose variables are set. -/
structure Merged (env : Environment) (c m : Config) : Prop where
  endpoint : m.endpoint = (env.text? Field.endpoint.envName).getD c.endpoint
  replaced : ∀ field value, field ≠ .endpoint → env.text? field.envName = some value →
    Text.Denotes value (m.number field)
  kept : ∀ field, field ≠ .endpoint → env.text? field.envName = none →
    m.number field = c.number field

variable {env env' : Environment} {c m m' : Config} {field : Field}

theorem Merged.unique (h : Merged env c m) (h' : Merged env c m') : m = m' := by
  refine ext_fieldJson fun field => ?_
  by_cases hfield : field = .endpoint
  · rw [hfield, fieldJson, fieldJson, h.endpoint, h'.endpoint]
  rw [fieldJson_of_ne hfield, fieldJson_of_ne hfield]
  cases htext : env.text? field.envName with
  | none => rw [h.kept field hfield htext, h'.kept field hfield htext]
  | some value =>
    rw [(h.replaced field value hfield htext).unique (h'.replaced field value hfield htext)]

/-- Replacing the fields a second time changes nothing. -/
theorem Merged.again (h : Merged env c m) : Merged env m m := by
  refine ⟨?_, h.replaced, fun _ _ _ => rfl⟩
  have hendpoint := h.endpoint
  cases htext : env.text? Field.endpoint.envName with
  | none => rfl
  | some value =>
    rw [htext] at hendpoint
    exact hendpoint

/-! ## One variable -/

theorem wellFormed_iff {value : String} :
    field.WellFormed value ↔
      ∃ n, Text.parseUnsigned (2 ^ field.bits) (Text.trim value) = .ok n := by
  refine exists_congr fun n => ?_
  rw [Text.parseUnsigned_trim_eq_ok (Nat.two_pow_pos _), Field.le_largest_iff]

theorem overrideNumber_of_unset (h : env.text? field.envName = none) :
    overrideNumber env c field = .ok c := by
  unfold overrideNumber
  rw [h]

theorem overrideNumber_of_wellFormed {value : String} (h : env.text? field.envName = some value)
    (hvalue : field.WellFormed value) : ∃ m, overrideNumber env c field = .ok m := by
  obtain ⟨n, hn⟩ := wellFormed_iff.mp hvalue
  unfold overrideNumber
  rw [h]
  dsimp only
  rw [hn]
  exact ⟨_, rfl⟩

theorem overrideNumber_of_illFormed {value : String} (h : env.text? field.envName = some value)
    (hvalue : ¬ field.WellFormed value) :
    ∃ fault, overrideNumber env c field = .error (.environment field.envName value fault) := by
  unfold overrideNumber
  rw [h]
  dsimp only
  cases hparse : Text.parseUnsigned (2 ^ field.bits) (Text.trim value) with
  | ok n => exact absurd (wellFormed_iff.mpr ⟨n, hparse⟩) hvalue
  | error fault => exact ⟨fault, rfl⟩

/-! ## One variable after another -/

/-- No variable for these fields is at fault. -/
def Unfaulted (env : Environment) (fields : List Field) : Prop :=
  ∀ field ∈ fields, ∀ value, env.text? field.envName = some value → field.WellFormed value

theorem overrideNumbers_of_unfaulted {fields : List Field} (h : Unfaulted env fields)
    (c : Config) : ∃ m, fields.foldlM (overrideNumber env) c = .ok m := by
  induction fields generalizing c with
  | nil => exact ⟨c, rfl⟩
  | cons field rest ih =>
    obtain ⟨hfield, hrest⟩ := List.forall_mem_cons.mp h
    have hnext : ∃ next, overrideNumber env c field = .ok next := by
      cases htext : env.text? field.envName with
      | none => exact ⟨c, overrideNumber_of_unset htext⟩
      | some value => exact overrideNumber_of_wellFormed htext (hfield value htext)
    obtain ⟨next, hnext⟩ := hnext
    obtain ⟨m, hm⟩ := ih hrest next
    refine ⟨m, ?_⟩
    rw [List.foldlM_cons, hnext]
    exact hm

/-- The first variable at fault decides. -/
theorem overrideNumbers_of_illFormed {before : List Field} (after : List Field) {value : String}
    (hbefore : Unfaulted env before) (h : env.text? field.envName = some value)
    (hvalue : ¬ field.WellFormed value) (c : Config) :
    ∃ fault, (before ++ field :: after).foldlM (overrideNumber env) c =
      .error (.environment field.envName value fault) := by
  obtain ⟨next, hnext⟩ := overrideNumbers_of_unfaulted hbefore c
  obtain ⟨fault, hfault⟩ := overrideNumber_of_illFormed (c := next) h hvalue
  refine ⟨fault, ?_⟩
  rw [List.foldlM_append, hnext]
  change (field :: after).foldlM (overrideNumber env) next = _
  rw [List.foldlM_cons, hfault]
  rfl

theorem unfaulted_or_first (env : Environment) (fields : List Field) :
    Unfaulted env fields ∨ ∃ before field after value, fields = before ++ field :: after ∧
      Unfaulted env before ∧ env.text? field.envName = some value ∧ ¬ field.WellFormed value := by
  induction fields with
  | nil => exact .inl (by simp [Unfaulted])
  | cons field rest ih =>
    by_cases hfield : ∀ value, env.text? field.envName = some value → field.WellFormed value
    · rcases ih with hrest | ⟨before, faulted, after, value, rfl, hbefore, htext, hvalue⟩
      · exact .inl (List.forall_mem_cons.mpr ⟨hfield, hrest⟩)
      · exact .inr ⟨field :: before, faulted, after, value, rfl,
          List.forall_mem_cons.mpr ⟨hfield, hbefore⟩, htext, hvalue⟩
    · obtain ⟨value, hvalue⟩ := Classical.not_forall.mp hfield
      obtain ⟨htext, hvalue⟩ := Classical.not_imp.mp hvalue
      exact .inr ⟨[], field, rest, value, rfl, by simp [Unfaulted], htext, hvalue⟩

/-! ## All variables -/

theorem merged_of_overrides
    (h : numericFields.foldlM (overrideNumber env) (c.overrideEndpoint env) = .ok m) :
    Merged env c m := by
  have htakes := takes_overrides h
  constructor
  · have hendpoint := htakes .endpoint
    unfold definedBy at hendpoint
    cases htext : env.text? Field.endpoint.envName with
    | none =>
      rw [htext] at hendpoint
      exact Json.str.inj hendpoint
    | some value =>
      rw [htext] at hendpoint
      exact (Json.str.inj (Option.some.inj hendpoint)).symm
  · intro field value hfield htext
    have hnumber := htakes field
    rw [definedBy, htext, Option.map_some, Takes, fieldJson_of_ne hfield,
      Definition.value?_text_of_ne hfield] at hnumber
    obtain ⟨n, hparse, hn⟩ := Option.map_eq_some_iff.mp hnumber
    obtain rfl : n = m.number field := Int.ofNat.inj (Json.int.inj hn)
    have hread := eq_ok_of_toOption hparse
    exact ((Text.parseUnsigned_trim_eq_ok (Nat.two_pow_pos _)).mp hread).1
  · intro field hfield htext
    have hnumber := htakes field
    rw [definedBy, htext, Option.map_none, Takes, fieldJson_of_ne hfield, fieldJson_of_ne hfield]
      at hnumber
    exact Int.ofNat.inj (Json.int.inj hnumber)

/-- Without a fault, the outcome is the configuration with the fields replaced, once it is
validated. -/
theorem applyEnvironment_of_unfaulted (h : Unfaulted env numericFields) (c : Config) :
    ∃ m, Merged env c m ∧ c.applyEnvironment env = m.validated := by
  obtain ⟨m, hm⟩ := overrideNumbers_of_unfaulted h (c.overrideEndpoint env)
  refine ⟨m, merged_of_overrides hm, ?_⟩
  rw [applyEnvironment, hm]
  rfl

theorem applyEnvironment_of_illFormed {before after : List Field} {value : String}
    (hfields : numericFields = before ++ field :: after) (hbefore : Unfaulted env before)
    (h : env.text? field.envName = some value) (hvalue : ¬ field.WellFormed value) (c : Config) :
    ∃ fault, c.applyEnvironment env = .error (.environment field.envName value fault) := by
  obtain ⟨fault, hfault⟩ :=
    overrideNumbers_of_illFormed after hbefore h hvalue (c.overrideEndpoint env)
  refine ⟨fault, ?_⟩
  rw [applyEnvironment, hfields, hfault]
  rfl

/-- A variable at fault is reported, and no violation is. -/
theorem applyEnvironment_of_fault {value : String} (hfield : field ∈ numericFields)
    (h : env.text? field.envName = some value) (hvalue : ¬ field.WellFormed value) (c : Config) :
    ∃ name text fault, c.applyEnvironment env = .error (.environment name text fault) := by
  rcases unfaulted_or_first env numericFields with
    hall | ⟨before, first, after, text, hfields, hbefore, htext, hfirst⟩
  · exact absurd (hall field hfield value h) hvalue
  · obtain ⟨fault, hfault⟩ := applyEnvironment_of_illFormed hfields hbefore htext hfirst c
    exact ⟨_, _, fault, hfault⟩

theorem unfaulted_of_applyEnvironment (h : c.applyEnvironment env = .ok m) :
    Unfaulted env numericFields := by
  intro field hfield value htext
  refine Classical.byContradiction fun hvalue => ?_
  obtain ⟨name, text, fault, hfault⟩ := applyEnvironment_of_fault hfield htext hvalue c
  rw [hfault] at h
  cases h

/-- What the variables have made of a configuration they make of it again. -/
theorem applyEnvironment_again (h : c.applyEnvironment env = .ok m) :
    m.applyEnvironment env = .ok m := by
  have hunfaulted := unfaulted_of_applyEnvironment h
  obtain ⟨merged, hmerged, heq⟩ := applyEnvironment_of_unfaulted hunfaulted c
  obtain ⟨rfl, hvalid⟩ := validated_eq_ok.mp (heq.symm.trans h)
  obtain ⟨second, hsecond, heq'⟩ := applyEnvironment_of_unfaulted hunfaulted m
  obtain rfl : second = m := hsecond.unique hmerged.again
  rw [heq']
  exact validated_eq_ok.mpr ⟨rfl, hvalid⟩

/-- The variables that are looked at. -/
def variableNames : List String :=
  ["REALTIME_ENDPOINT", "REALTIME_BASE_DELAY_MS", "REALTIME_MAX_DELAY_MS",
    "REALTIME_MAX_ATTEMPTS", "REALTIME_HEARTBEAT_INTERVAL_MS", "REALTIME_HEARTBEAT_TIMEOUT_MS",
    "REALTIME_CONNECT_TIMEOUT_MS"]

theorem envName_mem_variableNames (field : Field) : field.envName ∈ variableNames := by
  cases field <;> decide

theorem applyEnvironment_congr (h : ∀ name ∈ variableNames, env.text? name = env'.text? name)
    (c : Config) : c.applyEnvironment env = c.applyEnvironment env' := by
  have htext : ∀ field : Field, env.text? field.envName = env'.text? field.envName := fun field =>
    h _ (envName_mem_variableNames field)
  have hnumber : overrideNumber env = overrideNumber env' := by
    funext c field
    unfold overrideNumber
    rw [htext field]
  have hendpoint : c.overrideEndpoint env = c.overrideEndpoint env' := by
    unfold overrideEndpoint
    rw [htext .endpoint]
  unfold applyEnvironment
  rw [hnumber, hendpoint]

/-- What comes of any configuration and any variables.

The first variable at fault, in the order of the fields, is reported with its whole text. Without
one the fields whose variables are set are replaced and the result is validated. So a fault in a
variable comes before every violation, applying the variables twice is applying them once, and no
other variable matters. -/
theorem variables_replace_fields (c : Config) (env : Environment) :
    (∀ (before : List Field) field after value,
      [.baseReconnectDelay, .maxReconnectDelay, .maxReconnectAttempts, .heartbeatInterval,
        .heartbeatTimeout, .connectTimeout] = before ++ field :: after →
      (∀ earlier ∈ before, ∀ text, env.text? earlier.envName = some text →
        earlier.WellFormed text) →
      env.text? field.envName = some value → ¬ field.WellFormed value →
      ∃ fault, c.applyEnvironment env = .error (.environment field.envName value fault)) ∧
    ((∀ (field : Field) value, field ≠ .endpoint → env.text? field.envName = some value →
        field.WellFormed value) →
      ∃ m, Merged env c m ∧ (∀ m', Merged env c m' → m' = m) ∧
        (m.validate = .ok () → c.applyEnvironment env = .ok m) ∧
        ∀ violation, m.validate = .error violation →
          c.applyEnvironment env = .error (.validation violation)) ∧
    ((c.applyEnvironment env >>= fun m => m.applyEnvironment env) = c.applyEnvironment env) ∧
    (∀ (field : Field) value, field ≠ .endpoint → env.text? field.envName = some value →
      ¬ field.WellFormed value → ∀ violation,
        c.applyEnvironment env ≠ .error (.validation violation)) ∧
    ∀ env' : Environment,
      (∀ name ∈ ["REALTIME_ENDPOINT", "REALTIME_BASE_DELAY_MS", "REALTIME_MAX_DELAY_MS",
          "REALTIME_MAX_ATTEMPTS", "REALTIME_HEARTBEAT_INTERVAL_MS",
          "REALTIME_HEARTBEAT_TIMEOUT_MS", "REALTIME_CONNECT_TIMEOUT_MS"],
        env.text? name = env'.text? name) →
      c.applyEnvironment env = c.applyEnvironment env' := by
  have hnumeric : ∀ field : Field, field ∈ numericFields ↔ field ≠ .endpoint := by
    intro field
    cases field <;> decide
  refine ⟨?_, ?_, ?_, ?_, fun env' h => applyEnvironment_congr h c⟩
  · intro before field after value hfields hbefore htext hvalue
    exact applyEnvironment_of_illFormed hfields hbefore htext hvalue c
  · intro h
    have hunfaulted : Unfaulted env numericFields := fun field hfield value =>
      h field value ((hnumeric field).mp hfield)
    obtain ⟨m, hmerged, heq⟩ := applyEnvironment_of_unfaulted hunfaulted c
    refine ⟨m, hmerged, fun m' hm' => hm'.unique hmerged, ?_, ?_⟩
    · intro hvalid
      rw [heq, validated, hvalid]
    · intro violation hviolation
      rw [heq, validated, hviolation]
  · cases happly : c.applyEnvironment env with
    | error e => rfl
    | ok m => exact applyEnvironment_again happly
  · intro field value hfield htext hvalue violation hviolation
    obtain ⟨name, text, fault, hfault⟩ :=
      applyEnvironment_of_fault ((hnumeric field).mpr hfield) htext hvalue c
    rw [hfault] at hviolation
    cases hviolation

end Config

end EventFeed
