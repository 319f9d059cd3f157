import EventFeed.Logging.Logger
import EventFeed.Manager.Record
import EventFeed.Proofs.Event.Frames
import EventFeed.Proofs.Event.Names
import EventFeed.Proofs.Json.Lines
import EventFeed.Watch.EventLog

/-! # The lines of the event log

An event is described by its type, its time and its payload. The type is a name, and the payload is
written with its line feeds escaped, so neither of them goes beyond a line. The server's time may be
any text, and it is the only part that can end a line: what stands behind the end is then a line of
the log in its own right, which may look like any other.
-/

namespace EventFeed

/-- The text is a single line: it holds no line feed and no carriage return. -/
def Text.IsLine (s : String) : Prop := ∀ c ∈ s.toList, c ≠ '\n' ∧ c ≠ '\r'

namespace Text

variable {s t : String}

theorem isLine_append : IsLine (s ++ t) ↔ IsLine s ∧ IsLine t := by
  rw [IsLine, String.toList_append, List.forall_mem_append]
  rfl

theorem isLine_of_unbroken (h : Unbroken s.toList) : IsLine s := by
  intro c hc
  have hspace := h c hc
  constructor
  · rintro rfl
    exact absurd hspace (by decide)
  · rintro rfl
    exact absurd hspace (by decide)

end Text

open Text

/-! ## The parts of a description -/

theorem EventType.name_isLine (t : EventType) : IsLine t.name := by
  have hhead : Unbroken EventName.headCharacters := by decide +kernel
  have htail : Unbroken EventName.tailCharacters := by decide +kernel
  obtain ⟨first, rest, hname, hfirst, hrest⟩ := t.wellFormed_name.characters
  refine isLine_of_unbroken ?_
  rw [hname]
  exact .cons (hhead first hfirst) fun c hc => htail c (hrest c hc)

theorem Json.text_isLine (v : Json) : IsLine v.text := by
  refine isLine_of_unbroken ?_
  rw [Json.text, String.toList_ofList]
  exact v.render_unbroken

theorem isLine_toString (n : Int) : IsLine (toString n) := by
  refine isLine_of_unbroken ?_
  cases n with
  | ofNat n =>
      change Unbroken (Nat.repr n).toList
      rw [Nat.toList_repr]
      exact .digits n
  | negSucc n =>
      change Unbroken ("-" ++ Nat.repr (n + 1)).toList
      rw [String.toList_append, Nat.toList_repr]
      exact .append (by decide) (.digits _)

/-- A time in milliseconds is a number, and any other time is what the server has written. -/
theorem EventTimestamp.describe_isLine_iff (t : EventTimestamp) :
    IsLine t.describe ↔ ∀ text, t = .text text → IsLine text := by
  have hmark : IsLine " @" := isLine_of_unbroken (by decide)
  cases t with
  | millis n =>
      have hline : IsLine (" @" ++ toString n) := isLine_append.mpr ⟨hmark, isLine_toString n⟩
      exact iff_of_true hline fun text htext => by cases htext
  | text s =>
      rw [describe, isLine_append, and_iff_right hmark]
      constructor
      · rintro h text htext
        cases htext
        exact h
      · intro h
        exact h s rfl

namespace Event

/-- An event is described in a single line unless its time is a text of more than one. -/
theorem describe_isLine_iff (e : Event) :
    IsLine e.describe ↔ ∀ text, e.timestamp = some (.text text) → IsLine text := by
  have hgap : IsLine " " := isLine_of_unbroken (by decide)
  obtain ⟨type, payload, timestamp⟩ := e
  simp only [describe, isLine_append, type.name_isLine, payload.text_isLine, hgap, true_and,
    and_true]
  cases timestamp with
  | none => exact iff_of_true (List.forall_mem_nil _) fun text htext => by cases htext
  | some t => simp only [t.describe_isLine_iff, Option.some.injEq]

/-! ## Whatever a server writes as the time -/

/-- A frame without payload. -/
def timedFrame (time : String) : String :=
  Json.recordText [("timestamp", .str time), ("type", .str "service.registered")]

/-- Any text is the time of some event. -/
theorem parse_timedFrame (time : String) :
    parse (timedFrame time) = .ok ⟨.registry .serviceRegistered, .null, some (.text time)⟩ := by
  refine parse_eq_ok.mpr ⟨[("timestamp", .str time), ("type", .str "service.registered")], ?_, ?_⟩
  · have horder : "timestamp" < "type" := by decide +kernel
    have hlast : ∀ m ∈ [("timestamp", Json.str time)], m.1 < "type" :=
      List.forall_mem_singleton.mpr horder
    rw [timedFrame, Json.parse_recordText]
    · exact congrArg (Except.ok ∘ Json.obj) (Json.insertMember_of_last _ hlast)
    · exact List.forall_mem_cons.mpr ⟨.str _, List.forall_mem_singleton.mpr (.str _)⟩
    · exact List.forall_mem_cons.mpr ⟨rfl, List.forall_mem_singleton.mpr rfl⟩
  · exact ⟨⟨_, rfl, EventType.parse_name (.registry .serviceRegistered)⟩, .inl rfl, rfl, .text time⟩

/-- The time stands in the record as it is. -/
theorem exists_plain_eq (time date place : String) :
    ∃ before after, (LogLine.mk date (Report.registryEvent
      ⟨.registry .serviceRegistered, .null, some (.text time)⟩) place).plain =
        before ++ time ++ after := by
  have hmessage : ∀ e, (Report.registryEvent e).message = "Registry event: " ++ e.describe :=
    fun _ => rfl
  have hlevel : ∀ e, (Report.registryEvent e).level.name = "INFO" := fun _ => rfl
  refine ⟨"[" ++ date ++ " - " ++ "INFO" ++ "] " ++ "Registry event: " ++ "service.registered" ++
    " @", " " ++ Json.null.text ++ " [" ++ place ++ "]\n", ?_⟩
  simp only [LogLine.plain, LogLine.render, hmessage, hlevel, describe, EventTimestamp.describe,
    EventType.name, RegistryEvent.name, String.append_assoc]

/-- An event is described in a single line, unless its time is a text that is none: such a time
stands in the description as the server has written it. So whatever the line of a record is, there
is a frame for which the log, whenever and wherever it is written, shows that line as one of its
own. -/
theorem description_is_line_iff (e : Event) (forged : LogLine) :
    (IsLine e.describe ↔ ∀ text, e.timestamp = some (.text text) → IsLine text) ∧
    ∃ raw hostile, parse raw = .ok hostile ∧ ∀ date place, ∃ before after,
      (LogLine.mk date (Report.registryEvent hostile) place).plain =
        before ++ ("\n" ++ forged.plain) ++ after := by
  refine ⟨e.describe_isLine_iff, _, _, parse_timedFrame ("\n" ++ forged.plain), ?_⟩
  exact exists_plain_eq ("\n" ++ forged.plain)

/-- A frame whose time is a text of two lines. -/
def splittingFrame : String :=
  "\x7b\"type\":\"service.registered\",\"timestamp\":\"x\\ny\"\x7d"

theorem describe_splittingFrame :
    (parse splittingFrame).toOption.map describe = some "service.registered @x\ny null" ∧
      ¬ IsLine "service.registered @x\ny null" :=
  ⟨by decide +kernel, fun hline => (hline '\n' (by decide)).1 rfl⟩

end Event

end EventFeed
