import EventFeed.Proofs.Event.RoundTrip
import EventFeed.Proofs.Json.Objects

/-! # Which frames are events

A frame is an event when it is the text of an object with a type, with at most one payload, and with
a timestamp or none. Four keys decide that; where they stand in the text and what stands beside them
does not matter. Every other frame is refused as malformed.
-/

namespace EventFeed

namespace EventTimestamp

/-- What stands under the key of the timestamp, and the timestamp that it is. -/
inductive Stands : Option Json → Option EventTimestamp → Prop
  | absent : Stands none none
  | null : Stands (some .null) none
  | text (s : String) : Stands (some (.str s)) (some (.text s))
  | millis {n : Int} : -2 ^ 63 ≤ n → n < 2 ^ 63 → Stands (some (.int n)) (some (.millis n))

theorem stands_of_decode {v : Json} {t : EventTimestamp} (h : decode v = .ok t) :
    Stands (some v) (some t) := by
  cases v with
  | int n =>
    unfold decode at h
    dsimp only [Json.found] at h
    split at h
    next hrange =>
      cases h
      exact .millis hrange.1 hrange.2
    next => cases h
  | str s =>
    cases h
    exact .text s
  | _ => cases h

theorem optional_eq_ok {v : Json} {t : Option EventTimestamp} :
    Json.Decoder.optional decode v = .ok t ↔ Stands (some v) t := by
  constructor
  · intro h
    unfold Json.Decoder.optional at h
    split at h
    · cases h
      exact .null
    · cases hdecode : decode v with
      | error e =>
        rw [hdecode] at h
        cases h
      | ok t' =>
        rw [hdecode] at h
        cases h
        exact stands_of_decode hdecode
  · intro h
    cases h with
    | null => rfl
    | text s => rfl
    | millis hlow hhigh =>
      have hdecode : decode (.int _) = _ := if_pos ⟨hlow, hhigh⟩
      exact congrArg (some <$> ·) hdecode

end EventTimestamp

namespace EventType

theorem decode_eq_ok {v : Json} {t : EventType} :
    decode v = .ok t ↔ ∃ name, v = .str name ∧ parse name = .ok t := by
  cases v with
  | str s =>
    have htext : Json.Decoder.text (.str s) = .ok s := rfl
    simp only [decode, htext, bind, Except.bind, Json.str.injEq, exists_eq_left']
    cases parse s with
    | ok t' => simp [pure, Except.pure]
    | error e => simp
  | _ => simp [decode, Json.Decoder.text, Json.found, Found.toText, bind, Except.bind]

/-- A name that is refused is reported with the reason of the name. -/
theorem decode_of_invalid {name : String} {e : InvalidEventType} (h : parse name = .error e) :
    decode (.str name) = .error (.custom e.message) := by
  have htext : Json.Decoder.text (.str name) = .ok name := rfl
  simp only [decode, htext, h, bind, Except.bind]

end EventType

namespace Event

/-- The members of an object, as a lookup of its keys, tell this event. -/
structure Tells (member : String → Option Json) (e : Event) : Prop where
  type : ∃ name, member "type" = some (.str name) ∧ EventType.parse name = .ok e.type
  once : member "payload" = none ∨ member "data" = none
  payload : e.payload = ((member "payload").or (member "data")).getD .null
  timestamp : EventTimestamp.Stands (member "timestamp") e.timestamp

/-- The keys that a frame is read by. -/
def keys : List String := ["type", "payload", "data", "timestamp"]

variable {members members' : List (String × Json)} {e : Event}

theorem payloadOf_eq_ok {v : Json} :
    payloadOf members = .ok v ↔
      (Json.member? members "payload" = none ∨ Json.member? members "data" = none) ∧
        v = ((Json.member? members "payload").or (Json.member? members "data")).getD .null := by
  unfold payloadOf
  cases Json.member? members "data" <;> cases Json.member? members "payload" <;>
    simp [eq_comm]

theorem timestampOf_eq_ok {t : Option EventTimestamp} :
    timestampOf members = .ok t ↔
      EventTimestamp.Stands (Json.member? members "timestamp") t := by
  unfold timestampOf
  cases Json.member? members "timestamp" with
  | some v => exact EventTimestamp.optional_eq_ok
  | none =>
    constructor
    · intro h
      cases h
      exact .absent
    · intro h
      cases h
      rfl

theorem typeOf_eq_ok {t : EventType} :
    typeOf members = .ok t ↔
      ∃ name, Json.member? members "type" = some (.str name) ∧ EventType.parse name = .ok t := by
  unfold typeOf
  cases Json.member? members "type" with
  | some v => simp only [EventType.decode_eq_ok, Option.some.injEq]
  | none => simp

theorem ofMembers_eq_ok : ofMembers members = .ok e ↔ Tells (Json.member? members) e := by
  constructor
  · intro h
    obtain ⟨hpayload, htimestamp, htype⟩ := parts_of_ofMembers h
    obtain ⟨honce, hvalue⟩ := payloadOf_eq_ok.mp hpayload
    exact ⟨typeOf_eq_ok.mp htype, honce, hvalue, timestampOf_eq_ok.mp htimestamp⟩
  · intro h
    rw [ofMembers_eq, payloadOf_eq_ok.mpr ⟨h.once, h.payload⟩,
      timestampOf_eq_ok.mpr h.timestamp, typeOf_eq_ok.mpr h.type]
    rfl

/-- Members that agree on the four keys are read alike, errors included. -/
theorem ofMembers_congr
    (h : ∀ key ∈ keys, Json.member? members key = Json.member? members' key) :
    ofMembers members = ofMembers members' := by
  obtain ⟨htype, h⟩ := List.forall_mem_cons.mp h
  obtain ⟨hpayload, h⟩ := List.forall_mem_cons.mp h
  obtain ⟨hdata, h⟩ := List.forall_mem_cons.mp h
  have htimestamp := List.forall_mem_singleton.mp h
  simp only [ofMembers_eq, payloadOf, timestampOf, typeOf, htype, hpayload, hdata, htimestamp]

/-! ## Frames -/

variable {raw : String}

theorem parse_of_object (h : Json.parse raw = .ok (.obj members)) :
    parse raw = (ofMembers members).mapError .shape := by
  unfold parse
  rw [h]
  dsimp only
  cases ofMembers members <;> rfl

theorem parse_eq_ok :
    parse raw = .ok e ↔
      ∃ members, Json.parse raw = .ok (.obj members) ∧ Tells (Json.member? members) e := by
  constructor
  · intro h
    have hobject : ∃ members, Json.parse raw = .ok (.obj members) := by
      unfold parse at h
      split at h
      next => cases h
      next members hparse => exact ⟨members, hparse⟩
      next => cases h
    obtain ⟨members, hparse⟩ := hobject
    refine ⟨members, hparse, ofMembers_eq_ok.mp ?_⟩
    rw [parse_of_object hparse] at h
    cases hmembers : ofMembers members with
    | error e =>
      rw [hmembers] at h
      cases h
    | ok e' =>
      rw [hmembers] at h
      cases h
      rfl
  · rintro ⟨members, hparse, htells⟩
    rw [parse_of_object hparse, ofMembers_eq_ok.mpr htells]
    rfl

/-- A frame of which nothing but the name is refused is malformed for the reason of the name. -/
theorem parse_of_invalid_name {name : String} {invalid : InvalidEventType}
    {t : Option EventTimestamp} (h : Json.parse raw = .ok (.obj members))
    (honce : Json.member? members "payload" = none ∨ Json.member? members "data" = none)
    (htimestamp : EventTimestamp.Stands (Json.member? members "timestamp") t)
    (htype : Json.member? members "type" = some (.str name))
    (hname : EventType.parse name = .error invalid) :
    parse raw = .error (.shape (.custom invalid.message)) := by
  rw [parse_of_object h, ofMembers_eq, payloadOf_eq_ok.mpr ⟨honce, rfl⟩,
    timestampOf_eq_ok.mpr htimestamp, typeOf, htype]
  dsimp only
  rw [EventType.decode_of_invalid hname]
  rfl

/-- Frames whose objects were written with the same last values under the four keys are read
alike. -/
theorem parse_congr {raw' : String} {written written' : List (String × Json)}
    (h : Json.ObjectText (Json.depthLimit - 1) raw written)
    (h' : Json.ObjectText (Json.depthLimit - 1) raw' written')
    (hkeys : ∀ key ∈ keys, Json.latest? written key = Json.latest? written' key) :
    parse raw = parse raw' := by
  rw [parse_of_object (Json.parse_of_objectText h), parse_of_object (Json.parse_of_objectText h')]
  refine congrArg (Except.mapError FrameError.shape) (ofMembers_congr fun key hkey => ?_)
  rw [Json.member?_of_ofMembers rfl, Json.member?_of_ofMembers rfl]
  exact hkeys key hkey

/-- The text of an object is an event exactly when the last values under its keys tell it. -/
theorem parse_of_objectText {written : List (String × Json)}
    (h : Json.ObjectText (Json.depthLimit - 1) raw written) :
    parse raw = .ok e ↔ Tells (Json.latest? written) e := by
  have hmember : ∀ members, Json.ofMembers written = .obj members →
      Json.member? members = Json.latest? written := by
    intro members hobject
    funext key
    exact Json.member?_of_ofMembers hobject key
  have hparse := Json.parse_of_objectText h
  rw [parse_eq_ok]
  constructor
  · rintro ⟨members, hmembers, htells⟩
    rwa [hmember members (Except.ok.inj (hparse.symm.trans hmembers))] at htells
  · intro htells
    refine ⟨_, hparse, ?_⟩
    rwa [hmember _ rfl]

/-- A frame is an event exactly when it denotes an object whose members tell that event. Every text
of an object denotes one, up to a depth, and nothing else does. Of several members under one key the
last one counts; other keys and the order of the members make no difference. Every frame that is no
event is refused as malformed, for whatever reason. -/
theorem frame_is_event_iff (raw : String) :
    (∀ e, parse raw = .ok e ↔
      ∃ members, Json.parse raw = .ok (.obj members) ∧ Tells (Json.member? members) e) ∧
    (∀ members, Json.parse raw = .ok (.obj members) →
      (∃ written, Json.ObjectText (Json.depthLimit - 1) raw written) ∧
      ∀ written, Json.ObjectText (Json.depthLimit - 1) raw written →
        ∀ key, Json.member? members key = Json.latest? written key) ∧
    (∀ written, Json.ObjectText (Json.depthLimit - 1) raw written →
      (∃ members, Json.parse raw = .ok (.obj members)) ∧
      ∀ e, parse raw = .ok e ↔ Tells (Json.latest? written) e) ∧
    (∀ written raw' written', Json.ObjectText (Json.depthLimit - 1) raw written →
      Json.ObjectText (Json.depthLimit - 1) raw' written' →
      (∀ key ∈ ["type", "payload", "data", "timestamp"],
        Json.latest? written key = Json.latest? written' key) →
      parse raw = parse raw') ∧
    ((∀ e members, Json.parse raw = .ok (.obj members) → ¬ Tells (Json.member? members) e) →
      ∃ fault, parse raw = .error fault ∧
        fault.message = "Frame Parse Error: " ++ fault.reason) ∧
    ∀ members name invalid t, Json.parse raw = .ok (.obj members) →
      (Json.member? members "payload" = none ∨ Json.member? members "data" = none) →
      EventTimestamp.Stands (Json.member? members "timestamp") t →
      Json.member? members "type" = some (.str name) →
      EventType.parse name = .error invalid →
      parse raw = .error (.shape (.custom invalid.message)) := by
  refine ⟨fun e => parse_eq_ok, ?_, ?_, ?_, ?_, ?_⟩
  · intro members hparse
    obtain ⟨written, htext, -⟩ := Json.exists_objectText_of_parse hparse
    refine ⟨⟨written, htext⟩, ?_⟩
    intro written htext key
    have hobject : Json.ofMembers written = .obj members :=
      Except.ok.inj ((Json.parse_of_objectText htext).symm.trans hparse)
    exact Json.member?_of_ofMembers hobject key
  · intro written htext
    exact ⟨⟨_, Json.parse_of_objectText htext⟩, fun e => parse_of_objectText htext⟩
  · intro written raw' written' htext htext' hkeys
    exact parse_congr htext htext' hkeys
  · intro hnone
    cases hparse : parse raw with
    | error fault => exact ⟨fault, rfl, rfl⟩
    | ok e =>
      obtain ⟨members, hmembers, htells⟩ := parse_eq_ok.mp hparse
      exact absurd htells (hnone e members hmembers)
  · intro members name invalid t hparse honce htimestamp htype hname
    exact parse_of_invalid_name hparse honce htimestamp htype hname

/-- A frame that names one key twice, and another that no event has. -/
def retold : String :=
  "\x7b\"data\":1,\"level\":[],\"type\":\"a\", \"data\":[2],\"timestamp\":5\x7d"

theorem frame_is_event_iff_retold :
    ∃ e written, parse retold = .ok e ∧
      Json.ObjectText (Json.depthLimit - 1) retold written ∧ Tells (Json.latest? written) e ∧
        e.type.name = "a" ∧ e.payload.text = "[2]" ∧ e.timestamp = some (.millis 5) := by
  have hread : (parse retold).toOption.any (fun e => e.type.name == "a" &&
      e.payload.text == "[2]" && e.timestamp == some (.millis 5)) = true := by decide +kernel
  obtain ⟨hevent, htext, hlatest, -⟩ := frame_is_event_iff retold
  cases hparse : parse retold with
  | error _ =>
    rw [hparse] at hread
    cases hread
  | ok e =>
    rw [hparse] at hread
    simp only [Except.toOption, Option.any_some, Bool.and_eq_true, beq_iff_eq] at hread
    obtain ⟨⟨htype, hpayload⟩, htimestamp⟩ := hread
    obtain ⟨members, hmembers, -⟩ := (hevent e).mp hparse
    obtain ⟨⟨written, hwritten⟩, -⟩ := htext members hmembers
    exact ⟨e, written, rfl, hwritten, ((hlatest written hwritten).2 e).mp hparse, htype, hpayload,
      htimestamp⟩

end Event

end EventFeed
