import EventFeed.Event.Basic
import EventFeed.Proofs.Event.Names
import EventFeed.Proofs.Json.RoundTrip

/-! # Events survive their text

An event that was parsed, written as text and parsed again is the same event: its type comes back
from its name, its payload from its text, and its timestamp as the variant that it was.
-/

namespace EventFeed

namespace EventType

theorem decode_name (t : EventType) : decode (.str t.name) = .ok t := by
  simp [decode, Json.Decoder.text, Json.found, Found.toText, parse_name, bind, Except.bind, pure,
    Except.pure]

end EventType

namespace EventTimestamp

/-- Milliseconds of 64 bits with sign, which is what decoding yields. -/
def Bounded : EventTimestamp → Prop
  | millis n => -2 ^ 63 ≤ n ∧ n < 2 ^ 63
  | text _ => True

theorem bounded_of_decode {v : Json} {t : EventTimestamp} (h : decode v = .ok t) : t.Bounded := by
  unfold decode at h
  split at h
  · split at h
    · next hbounds => cases h; exact hbounds
    · cases h
  · cases h; exact True.intro
  · cases h

theorem bounded_of_optional {v : Json} {t : EventTimestamp}
    (h : Json.Decoder.optional decode v = .ok (some t)) : t.Bounded := by
  unfold Json.Decoder.optional at h
  split at h
  · cases h
  · cases hdecode : decode v with
    | error e => rw [hdecode] at h; cases h
    | ok t' => rw [hdecode] at h; cases h; exact bounded_of_decode hdecode

theorem decode_toJson {t : EventTimestamp} (h : t.Bounded) : decode t.toJson = .ok t := by
  cases t with
  | millis n => exact if_pos h
  | text s => rfl

/-- No timestamp is written as null, which stands for none. -/
theorem optional_toJson {t : EventTimestamp} (h : t.Bounded) :
    Json.Decoder.optional decode t.toJson = .ok (some t) := by
  have hdecode := decode_toJson h
  cases t with
  | millis n => exact congrArg (some <$> ·) hdecode
  | text s => exact congrArg (some <$> ·) hdecode

theorem toJson_fits {t : EventTimestamp} (h : t.Bounded) (depth : Nat) : t.toJson.Fits depth := by
  cases t with
  | millis n =>
    obtain ⟨hlow, hhigh⟩ := h
    refine .int hlow ?_
    simp only [Json.maxInt]
    omega
  | text s => exact .str s

theorem toJson_hasReal (t : EventTimestamp) : t.toJson.hasReal = false := by
  cases t <;> rfl

end EventTimestamp

namespace Json

theorem mem_of_member? {members : List (String × Json)} {key : String} {v : Json}
    (h : member? members key = some v) : (key, v) ∈ members := by
  simp only [member?, Option.map_eq_some_iff] at h
  obtain ⟨⟨k, v'⟩, hfind, rfl⟩ := h
  have hkey : k = key := by simpa using List.find?_some hfind
  exact hkey ▸ List.mem_of_find?_eq_some hfind

end Json

namespace Event

/-! ## Members -/

/-- The payload among the members of a frame. -/
def payloadOf (members : List (String × Json)) : Except DecodeError Json :=
  match Json.member? members "data", Json.member? members "payload" with
  | some _, some _ => .error (.duplicateField "payload")
  | some v, none => .ok v
  | none, some v => .ok v
  | none, none => .ok .null

/-- The timestamp among the members of a frame. -/
def timestampOf (members : List (String × Json)) : Except DecodeError (Option EventTimestamp) :=
  match Json.member? members "timestamp" with
  | some v => Json.Decoder.optional EventTimestamp.decode v
  | none => .ok none

/-- The type among the members of a frame. -/
def typeOf (members : List (String × Json)) : Except DecodeError EventType :=
  match Json.member? members "type" with
  | some v => EventType.decode v
  | none => .error (.missingField "type")

/-- The three parts are read one after another. -/
theorem ofMembers_eq (members : List (String × Json)) :
    ofMembers members = do
      let payload ← payloadOf members
      let timestamp ← timestampOf members
      let type ← typeOf members
      return ⟨type, payload, timestamp⟩ := by
  unfold ofMembers payloadOf timestampOf typeOf
  cases Json.member? members "data" <;> cases Json.member? members "payload" <;>
    cases Json.member? members "timestamp" <;> cases Json.member? members "type" <;> rfl

variable {members : List (String × Json)} {e : Event}

theorem parts_of_ofMembers (h : ofMembers members = .ok e) :
    payloadOf members = .ok e.payload ∧ timestampOf members = .ok e.timestamp ∧
      typeOf members = .ok e.type := by
  rw [ofMembers_eq] at h
  obtain ⟨payload, hpayload, h⟩ := exists_of_bind_ok h
  obtain ⟨timestamp, htimestamp, h⟩ := exists_of_bind_ok h
  obtain ⟨type, htype, h⟩ := exists_of_bind_ok h
  cases h
  exact ⟨hpayload, htimestamp, htype⟩

theorem payload_fits {depth : Nat} {v : Json} (hfits : ∀ m ∈ members, m.2.Fits depth)
    (h : payloadOf members = .ok v) : v.Fits depth := by
  unfold payloadOf at h
  split at h
  · cases h
  · next hdata _ => cases h; exact hfits _ (Json.mem_of_member? hdata)
  · next hpayload => cases h; exact hfits _ (Json.mem_of_member? hpayload)
  · cases h; exact .null

theorem timestamp_bounded {t : EventTimestamp} (h : timestampOf members = .ok (some t)) :
    t.Bounded := by
  unfold timestampOf at h
  split at h
  · exact EventTimestamp.bounded_of_optional h
  · cases h

/-- What holds of an event that was parsed from text. -/
structure Parsed (e : Event) : Prop where
  payload : e.payload.Fits (Json.depthLimit - 1)
  timestamp : ∀ t, e.timestamp = some t → t.Bounded

theorem parsed_of_ofMembers (hfits : ∀ m ∈ members, m.2.Fits (Json.depthLimit - 1))
    (h : ofMembers members = .ok e) : e.Parsed := by
  obtain ⟨hpayload, htimestamp, -⟩ := parts_of_ofMembers h
  refine ⟨payload_fits hfits hpayload, fun t ht => ?_⟩
  rw [ht] at htimestamp
  exact timestamp_bounded htimestamp

theorem parsed_of_parse {raw : String} (h : parse raw = .ok e) : e.Parsed := by
  unfold parse at h
  split at h
  · cases h
  · next members hparse =>
    split at h
    · cases h
    · next hmembers =>
      cases h
      cases Json.fits_of_parse hparse with
      | obj _ hfits => exact parsed_of_ofMembers hfits hmembers
  · cases h

/-! ## The text of an event -/

theorem timestampJson_fits (h : e.Parsed) (depth : Nat) : e.timestampJson.Fits depth := by
  unfold timestampJson
  cases ht : e.timestamp with
  | none => exact .null
  | some t => exact EventTimestamp.toJson_fits (h.timestamp t ht) depth

theorem timestampJson_hasReal (e : Event) : e.timestampJson.hasReal = false := by
  unfold timestampJson
  cases e.timestamp with
  | none => rfl
  | some t => exact t.toJson_hasReal

/-- An absent timestamp is written as null, which is read as absent. -/
theorem decode_timestampJson (h : e.Parsed) :
    Json.Decoder.optional EventTimestamp.decode e.timestampJson = .ok e.timestamp := by
  unfold timestampJson
  cases ht : e.timestamp with
  | none => rfl
  | some t =>
    exact EventTimestamp.optional_toJson (h.timestamp t ht)

/-- The members of an event's text in the order of their keys. -/
theorem ofMembers_text (e : Event) :
    Json.ofMembers [("type", .str e.type.name), ("payload", e.payload),
      ("timestamp", e.timestampJson)] =
    .obj [("payload", e.payload), ("timestamp", e.timestampJson), ("type", .str e.type.name)] := by
  have hpayload : "payload" < "type" := by decide
  have htimestamp : ¬ "timestamp" < "payload" := by decide
  have htype : "timestamp" < "type" := by decide
  simp [Json.ofMembers, Json.insertMember, hpayload, htimestamp, htype]

/-- The three members are found again, whatever order they were written in. -/
theorem ofMembers_sorted (h : e.Parsed) :
    ofMembers [("payload", e.payload), ("timestamp", e.timestampJson),
      ("type", .str e.type.name)] = .ok e := by
  have htimestamp := decode_timestampJson h
  have htype := EventType.decode_name e.type
  simp [ofMembers_eq, payloadOf, timestampOf, typeOf, Json.member?, htimestamp, htype, bind,
    Except.bind, pure, Except.pure]

/-- An event that was parsed comes back from its own text when no number in its payload is
floating point: the same type, the same payload with all its strings and keys, and the same
timestamp. -/
theorem parse_text_of_parse {raw : String} (h : parse raw = .ok e)
    (hreal : e.payload.hasReal = false) : parse e.text = .ok e := by
  have hparsed := parsed_of_parse h
  have hread : Json.parse e.text = .ok (.obj [("payload", e.payload),
      ("timestamp", e.timestampJson), ("type", .str e.type.name)]) := by
    rw [text, Json.parse_recordText, ofMembers_text]
    · exact List.forall_mem_cons.mpr ⟨.str _, List.forall_mem_cons.mpr ⟨hparsed.payload,
        List.forall_mem_singleton.mpr (timestampJson_fits hparsed _)⟩⟩
    · exact List.forall_mem_cons.mpr ⟨rfl, List.forall_mem_cons.mpr ⟨hreal,
        List.forall_mem_singleton.mpr e.timestampJson_hasReal⟩⟩
  rw [parse, hread]
  dsimp only
  rw [ofMembers_sorted hparsed]

/-- A frame with its members out of order, an escaped key, the smallest integer and a timestamp
that is a text of digits. -/
def nestedFrame : String :=
  "\x7b\"timestamp\":\"17\",\"data\":\x7b\"b\":\x7b\x7d," ++
    "\"a\\n\":[-9223372036854775808,\"\\\"\\u00e9\",null]\x7d," ++
    "\"type\":\"service.registered\"\x7d"

theorem parse_text_of_parse_nested :
    ∃ e, parse nestedFrame = .ok e ∧ e.payload.hasReal = false ∧
      e.timestamp = some (.text "17") ∧ parse e.text = .ok e := by
  have hread : (parse nestedFrame).toOption.any (fun e =>
      !e.payload.hasReal && e.timestamp == some (.text "17")) = true := by decide +kernel
  cases hparse : parse nestedFrame with
  | error _ =>
    rw [hparse] at hread
    cases hread
  | ok e =>
    rw [hparse] at hread
    simp only [Except.toOption, Option.any_some, Bool.and_eq_true, Bool.not_eq_true',
      beq_iff_eq] at hread
    exact ⟨e, rfl, hread.1, hread.2, parse_text_of_parse hparse hread.1⟩

end Event

end EventFeed
