import EventFeed.Manager.Basic
import EventFeed.Proofs.Url.Authorities

/-! # Valid configurations

What validation asks of a configuration, and what has passed it: every configuration that is loaded,
with variables or without, and the configuration of every manager.
-/

namespace EventFeed

namespace Config

/-- The endpoint is a URL for WebSockets, no time is zero, and the delays are in order. -/
structure Valid (c : Config) : Prop where
  endpoint : ∃ url, Url.parse c.endpoint = .ok url ∧ (url.scheme = "ws" ∨ url.scheme = "wss")
  positive : ∀ f : Field, f ≠ .endpoint → f ≠ .maxReconnectAttempts → 0 < c.number f
  ordered : c.number .baseReconnectDelay ≤ c.number .maxReconnectDelay

variable {c c' : Config}

theorem endpointUrl_eq_ok {url : Url} :
    c.endpointUrl = .ok url ↔
      Url.parse c.endpoint = .ok url ∧ (url.scheme = "ws" ∨ url.scheme = "wss") := by
  unfold endpointUrl
  cases Url.parse c.endpoint with
  | error e => simp
  | ok u =>
      simp only [Except.ok.injEq]
      split
      next h =>
        rw [Except.ok.injEq]
        exact ⟨fun heq => ⟨heq, heq ▸ h⟩, fun hu => hu.1⟩
      next h =>
        constructor
        · intro heq
          cases heq
        · rintro ⟨rfl, hscheme⟩
          exact absurd hscheme h

theorem mem_positiveFields {f : Field} :
    f ∈ positiveFields ↔ f ≠ .endpoint ∧ f ≠ .maxReconnectAttempts := by
  cases f <;> decide

theorem validate_eq_ok : c.validate = .ok () ↔ c.Valid := by
  have hpositive : positiveFields.find? (fun f => c.number f == 0) = none ↔
      ∀ f : Field, f ≠ .endpoint → f ≠ .maxReconnectAttempts → 0 < c.number f := by
    simp only [List.find?_eq_none, mem_positiveFields, beq_iff_eq, and_imp, Nat.pos_iff_ne_zero]
  have hordered : ¬ c.maxReconnectDelayMs < c.baseReconnectDelayMs ↔
      c.number .baseReconnectDelay ≤ c.number .maxReconnectDelay := by
    rw [UInt64.lt_iff_toNat_lt, Nat.not_lt]
    rfl
  unfold validate
  constructor
  · intro h
    cases hurl : c.endpointUrl with
    | error v =>
        rw [hurl] at h
        cases h
    | ok url =>
        rw [hurl] at h
        cases hzero : positiveFields.find? fun f => c.number f == 0 with
        | some f =>
            rw [hzero] at h
            cases h
        | none =>
            rw [hzero] at h
            by_cases hlt : c.maxReconnectDelayMs < c.baseReconnectDelayMs
            · simp [hlt, bind, Except.bind] at h
            · exact ⟨⟨url, endpointUrl_eq_ok.mp hurl⟩, hpositive.mp hzero, hordered.mp hlt⟩
  · rintro ⟨⟨url, hurl⟩, hpos, hle⟩
    rw [endpointUrl_eq_ok.mpr hurl, hpositive.mpr hpos]
    simp [hordered.mpr hle, bind, Except.bind]

theorem validated_eq_ok : c.validated = .ok c' ↔ c' = c ∧ c.Valid := by
  unfold validated
  rw [← validate_eq_ok]
  cases c.validate with
  | ok _ =>
      simp only [Except.ok.injEq, and_true]
      exact eq_comm
  | error _ => simp

/-! ## The default -/

section Default

open Url

/-- The default endpoint is a URL for WebSockets, in normal form. -/
theorem parse_default_endpoint :
    Url.parse ({} : Config).endpoint = .ok ⟨"ws", "//127.0.0.1:8080/ws"⟩ := by
  have hscheme : splitScheme? (significant ({} : Config).endpoint) =
      some ("ws", "//127.0.0.1:8080/ws".toList) := by decide +kernel
  have huser : splitUserinfo true "127.0.0.1:8080/ws".toList =
      (none, "127.0.0.1:8080/ws".toList) := by rfl
  have htext : takeHost true false "127.0.0.1:8080/ws".toList = "127.0.0.1".toList := by rfl
  have hplain : ("127.0.0.1".toList.all fun c => Domain.IsPlain c) = true := by decide +kernel
  have hhost : Host.parse "127.0.0.1".toList = .ok (.ipv4 0x7f000001) := by
    rw [Host.parse_of_isPlain (by simpa using hplain) (by decide) (by decide +kernel)]
    rfl
  have hport : parsePort "ws" "8080/ws".toList = .ok (some 8080, "/ws".toList) := by rfl
  have hauthority := parseAuthority_of_port (by decide) huser htext (by decide) hhost (by rfl) hport
  rw [parse_of_authority hscheme (by decide) hauthority (by rfl)]
  rfl

end Default

theorem valid_default : ({} : Config).Valid := by
  refine ⟨⟨_, parse_default_endpoint, .inl rfl⟩, ?_, by decide⟩
  intro f
  cases f <;> decide

/-! ## Loading -/

theorem ofFileText_eq_ok {source : String} :
    ofFileText source = .ok c ↔
      ∃ members, Toml.parse source = .ok members ∧ ofTable members = .ok c := by
  unfold ofFileText
  cases Toml.parse source <;> simp

theorem load_eq_ok {path : String} {file : FileContent} :
    load path file = .ok c ↔ (file.text = .ok none ∧ c = {}) ∨
      ∃ source, file.text = .ok (some source) ∧ ofFileText source = .ok c ∧ c.Valid := by
  unfold load
  cases file.text with
  | error fault => simp
  | ok source? =>
      cases source? with
      | none => simp [eq_comm]
      | some source =>
          cases hread : ofFileText source with
          | error e => simp [hread]
          | ok loaded =>
              simp only [validated_eq_ok, Except.ok.injEq, Option.some.injEq, reduceCtorEq,
                false_and, false_or, exists_eq_left', hread]
              constructor
              · rintro ⟨rfl, hvalid⟩
                exact ⟨rfl, hvalid⟩
              · rintro ⟨rfl, hvalid⟩
                exact ⟨rfl, hvalid⟩

theorem valid_of_load {path : String} {file : FileContent} (h : load path file = .ok c) :
    c.Valid := by
  rcases load_eq_ok.mp h with ⟨_, rfl⟩ | ⟨_, _, _, hvalid⟩
  · exact valid_default
  · exact hvalid

theorem applyEnvironment_eq_ok {env : Environment} :
    c.applyEnvironment env = .ok c' ↔
      numericFields.foldlM (overrideNumber env) (c.overrideEndpoint env) = .ok c' ∧ c'.Valid := by
  unfold applyEnvironment
  constructor
  · intro h
    obtain ⟨overridden, hnumbers, h⟩ := exists_of_bind_ok h
    obtain ⟨rfl, hvalid⟩ := validated_eq_ok.mp h
    exact ⟨hnumbers, hvalid⟩
  · rintro ⟨hnumbers, hvalid⟩
    rw [hnumbers]
    exact validated_eq_ok.mpr ⟨rfl, hvalid⟩

theorem valid_of_applyEnvironment {env : Environment} (h : c.applyEnvironment env = .ok c') :
    c'.Valid :=
  (applyEnvironment_eq_ok.mp h).2

end Config

namespace Manager

variable {c : Config} {m : Manager} {insideRuntime : Bool}

theorem build_of_valid (h : c.Valid) :
    ∃ m, build c true = .ok m ∧ m.config = c := by
  obtain ⟨url, hurl⟩ := h.endpoint
  refine ⟨⟨c, url.text⟩, ?_, by rfl⟩
  simp [build, Config.validate_eq_ok.mpr h, Config.endpointUrl_eq_ok.mpr hurl]

theorem valid_of_build (h : build c insideRuntime = .ok m) : c.Valid ∧ m.config = c := by
  unfold build at h
  cases hvalidate : c.validate with
  | error v =>
      rw [hvalidate] at h
      cases h
  | ok _ =>
      refine ⟨Config.validate_eq_ok.mp hvalidate, ?_⟩
      rw [hvalidate] at h
      cases hurl : c.endpointUrl with
      | error v => simp [hurl] at h
      | ok url =>
          cases insideRuntime with
          | false => simp [hurl] at h
          | true =>
              simp only [hurl, if_true, Except.ok.injEq] at h
              rw [← h]

end Manager

end EventFeed
