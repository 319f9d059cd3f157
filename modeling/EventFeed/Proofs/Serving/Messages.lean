import EventFeed.Proofs.Basic
import EventFeed.Proofs.Serving.Heartbeats
import EventFeed.Transport.Message

/-! # How messages count

Whether a peer sends a text as text or as bytes makes no difference, and neither do bytes that are
no text and parts of messages, wherever they come. What a session does about what it reads is
settled by what comes in, up to what ends the connection, however the session is scheduled.
-/

namespace EventFeed

theorem decodeText_eq_some {data : ByteArray} {s : String} :
    decodeText data = some s ↔ s.toUTF8 = data := by
  constructor
  · intro h
    rw [decodeText, String.fromUTF8?] at h
    split at h
    · obtain rfl := Option.some.inj h
      rfl
    · cases h
  · rintro rfl
    exact fromUTF8?_toUTF8 s

theorem decodeText_eq_none {data : ByteArray} :
    decodeText data = none ↔ ∀ s : String, s.toUTF8 ≠ data := by
  simp only [Option.eq_none_iff_forall_ne_some, ne_eq, decodeText_eq_some]

namespace Message

/-- The bytes of a text are replaced by the text. Other bytes, and parts of messages, are left
out. -/
inductive Condenses : List (Except String Message) → List (Except String Message) → Prop
  | nil : Condenses [] []
  | text {s : String} {data : ByteArray} {items rest : List (Except String Message)} :
      s.toUTF8 = data → Condenses items rest →
        Condenses (.ok (.binary data) :: items) (.ok (.text s) :: rest)
  | bytes {data : ByteArray} {items rest : List (Except String Message)} :
      (∀ s : String, s.toUTF8 ≠ data) → Condenses items rest →
        Condenses (.ok (.binary data) :: items) rest
  | part {data : ByteArray} {items rest : List (Except String Message)} :
      Condenses items rest → Condenses (.ok (.fragment data) :: items) rest
  | keep {item : Except String Message} {items rest : List (Except String Message)} :
      (∀ data, item ≠ .ok (.binary data)) → (∀ data, item ≠ .ok (.fragment data)) →
        Condenses items rest → Condenses (item :: items) (item :: rest)

variable {items items' rest rest' : List (Except String Message)}

theorem exists_condenses (items : List (Except String Message)) :
    ∃ rest, Condenses items rest := by
  induction items with
  | nil => exact ⟨[], .nil⟩
  | cons item items ih =>
      obtain ⟨rest, hrest⟩ := ih
      cases item with
      | error reason => exact ⟨_, .keep nofun nofun hrest⟩
      | ok m =>
          cases m with
          | binary data =>
              by_cases htext : ∃ s : String, s.toUTF8 = data
              · obtain ⟨s, hs⟩ := htext
                exact ⟨_, hrest.text hs⟩
              · exact ⟨rest, hrest.bytes fun s hs => htext ⟨s, hs⟩⟩
          | fragment data => exact ⟨rest, hrest.part⟩
          | _ => exact ⟨_, .keep nofun nofun hrest⟩

theorem Condenses.unique (h : Condenses items rest) (h' : Condenses items rest') :
    rest = rest' := by
  induction h generalizing rest' with
  | nil =>
      cases h'
      rfl
  | text hs _ ih =>
      cases h' with
      | text hs' h' =>
          rw [← decodeText_eq_some] at hs hs'
          rw [Option.some.inj (hs.symm.trans hs'), ih h']
      | bytes hno => exact absurd hs (hno _)
      | keep hno => exact absurd rfl (hno _)
  | bytes hno _ ih =>
      cases h' with
      | text hs => exact absurd hs (hno _)
      | bytes _ h' => exact ih h'
      | keep hother => exact absurd rfl (hother _)
  | part _ ih =>
      cases h' with
      | part h' => exact ih h'
      | keep _ hother => exact absurd rfl (hother _)
  | keep hbytes hparts _ ih =>
      cases h' with
      | text => exact absurd rfl (hbytes _)
      | bytes => exact absurd rfl (hbytes _)
      | part => exact absurd rfl (hparts _)
      | keep _ _ h' => rw [ih h']

/-- What has been condensed makes the same frames and failures as before. -/
theorem Condenses.ofMessages (h : Condenses items rest) :
    Inbound.ofMessages items = Inbound.ofMessages rest := by
  induction h with
  | nil => rfl
  | text hs _ ih =>
      rw [← decodeText_eq_some] at hs
      simp only [Inbound.ofMessages, List.filterMap_cons, frame?, hs, Option.map_some] at ih ⊢
      rw [ih]
  | @bytes data _ _ hno _ ih =>
      have hnone : decodeText data = none := decodeText_eq_none.mpr hno
      simpa only [Inbound.ofMessages, List.filterMap_cons, frame?, hnone, Option.map_none] using ih
  | part _ ih => exact ih
  | keep _ _ _ ih =>
      rw [Inbound.ofMessages, Inbound.ofMessages, List.filterMap_cons, List.filterMap_cons]
      unfold Inbound.ofMessages at ih
      rw [ih]

end Message

/-- The connection is over when the item is read. -/
def Inbound.EndsConnection (item : Inbound) : Prop := ∃ loss, item.reading = .over loss

/-- What a session does about what it reads. -/
inductive Response where
  | delivery (event : Event)
  | acknowledgement

def Beat.response? : Beat → Option Response
  | .pinged _ => none
  | .acknowledged => some .acknowledgement

def Inbound.response? (item : Inbound) : Option Response :=
  if item.isAcknowledgement then some .acknowledgement else item.event?.map .delivery

theorem Inbound.event?_of_isAcknowledgement {item : Inbound} (h : item.isAcknowledgement = true) :
    item.event? = none :=
  event?_eq_none fun e => by simp [reading_eq_acknowledgement.mpr h]

namespace Simulation

namespace Pool

/-- The events that are handed over, and the acknowledgements of heartbeats, on a connection with a
move. -/
def responses (n : Nat) (p : Pool) (m : Move) : List Response :=
  (p.handed n m).map .delivery ++ (p.beats n m).filterMap Beat.response?

variable {p p' : Pool} {m : Move} {n n' : Nat} {item : Inbound} {stream : List Inbound}
  {moves moves' : List Move}

/-! ## What is read last -/

/-- Nobody reads two items at once. -/
theorem read_eq_singleton (hread : item ∈ p.read n m) : p.read n m = [item] := by
  obtain ⟨task, h, rest, hcall, htask, ha, hturn⟩ := exists_of_read hread
  simp [read, World.readings, hcall, World.activity?, htask, ha, World.takesOut, hturn]

/-- A session that reads what ends its connection gives the connection up. -/
theorem lost_of_read (hshape : p.Shaped) (hcustody : p.world.Custody) (hread : item ∈ p.read n m)
    (hends : item.EndsConnection) : (p.move m).world.Lost n := by
  obtain ⟨task, h, rest, hcall, htask, ha, hturn⟩ := exists_of_read hread
  obtain ⟨i, value, below, rfl, ht, hmove⟩ := exists_of_session hcall
  obtain ⟨loss, hreading⟩ := hends
  have hstep : p.world.stepSession task.session (.serving n h) value = _ :=
    (World.Comes.cutOff hturn hreading).eq
  rw [← ha] at hstep
  obtain ⟨alarms, hworld⟩ : ∃ alarms, (p.move (.step i)).world =
      (p.world.setInbox n rest).setTask ⟨task.session, .losing n loss, alarms⟩ := by
    rw [hmove, World.runSession_goOn htask hstep]
    exact ⟨_, rfl⟩
  have hpost : (task.session.epoch, .losing n loss) ∈ (p.move (.step i)).world.posts := by
    rw [hworld, World.setTask_posts, (p.world.setInbox_same n rest).posts]
    exact List.mem_map.mpr ⟨_, World.mem_posts_of_task? htask, if_pos rfl⟩
  exact World.Custody.lost (run_custody [.step i] hshape hcustody) hpost

theorem read_of_lost (hlost : p.world.Lost n) : p.read n m = [] := by
  rw [List.eq_nil_iff_forall_not_mem]
  intro item hread
  obtain ⟨task, h, _, _, htask, ha, _⟩ := exists_of_read hread
  obtain ⟨loss, hloss⟩ := hlost.losing _ (World.mem_posts_of_task? htask) (by rw [ha]; rfl)
  rw [ha] at hloss
  cases hloss

/-- Nothing is read after what ends a connection. -/
theorem eq_nil_of_endsConnection (hshape : p.Shaped) (hcustody : p.world.Custody)
    {front back : List Inbound} (hread : p.trace (read n) moves = front ++ item :: back)
    (hends : item.EndsConnection) : back = [] := by
  obtain ⟨before, m, after, left, right, rfl, hsee, rfl, rfl⟩ := exists_of_trace hread
  have hmem : item ∈ (p.run before).read n m := by simp [hsee]
  have hshape' := run_shaped before hshape
  have hcustody' := run_custody before hshape hcustody
  -- with the move that reads the item, nothing else is read
  have hright : right = [] := by
    have hlength := congrArg List.length (read_eq_singleton hmem ▸ hsee)
    simp only [List.length_append, List.length_cons, List.length_nil] at hlength
    exact List.length_eq_zero_iff.mp (by omega)
  have hlost : (p.run (before ++ [m])).world.Lost n := by
    rw [run_concat]
    exact lost_of_read hshape' hcustody' hmem hends
  have hafter : (p.run (before ++ [m])).trace (read n) after = [] := by
    rw [List.eq_nil_iff_forall_not_mem]
    intro item' hitem'
    obtain ⟨during, m', _, _, hread'⟩ := exists_of_mem_trace hitem'
    have hstill := (run_lost during (run_shaped _ hshape) (run_custody _ hshape hcustody) hlost).1
    rw [read_of_lost hstill] at hread'
    cases hread'
  rw [hright, hafter]
  rfl

/-! ## What is done about it -/

/-- Nothing is read but what has come in, first come, first served. -/
theorem read_prefix_arrived (scenario : Scenario) (opens : List OpenScript) (moves : List Move) :
    (start scenario opens).trace (read n) moves <+:
      (start scenario opens).trace (arrived n) moves :=
  ⟨_, (@run_inbox (start scenario opens) n moves).symm⟩

/-- A session does what it does about what it reads, as it reads it. -/
theorem move_responses (hshape : p.Shaped) (m : Move) :
    p.responses n m = (p.read n m).filterMap Inbound.response? := by
  have hsent : ((p.world.completions n (p.call? m)).filterMap Outbound.beat?).filterMap
      Beat.response? = [] := by
    rw [List.filterMap_filterMap, List.filterMap_eq_nil_iff]
    intro frame _
    cases frame <;> rfl
  have hbeats : (p.beats n m).filterMap Beat.response? =
      ((p.read n m).filterMap Inbound.beat?).filterMap Beat.response? := by
    rw [beats, World.beats, List.filterMap_append, hsent, List.nil_append]
    rfl
  rw [responses, hbeats, move_handed hshape]
  cases hread : p.read n m with
  | nil => rfl
  | cons item rest =>
      have hone : p.read n m = [item] := read_eq_singleton (by rw [hread]; exact List.mem_cons_self)
      obtain rfl : rest = [] := by
        rw [hread] at hone
        exact (List.cons.inj hone).2
      cases hitem : item.isAcknowledgement with
      | true =>
          simp [Inbound.response?, Inbound.beat?, Beat.response?, hitem,
            Inbound.event?_of_isAcknowledgement hitem]
      | false =>
          cases hevent : item.event? <;> simp [Inbound.response?, Inbound.beat?, hitem, hevent]

theorem run_responses (hshape : p.Shaped) (moves : List Move) :
    p.trace (responses n) moves = (p.trace (read n) moves).filterMap Inbound.response? := by
  induction moves using List.reverseRecOn with
  | nil => rfl
  | append_singleton moves m ih =>
      rw [trace_concat, trace_concat, List.filterMap_append, ih,
        move_responses (run_shaped moves hshape) m]

/-- All that will be read of what is to come in on a connection has been read: there is no more, or
the connection is over. -/
def ServesUp (p : Pool) (n : Nat) (stream : List Inbound) (moves : List Move) : Prop :=
  p.trace (read n) moves = stream ∨ ∃ item ∈ p.trace (read n) moves, item.EndsConnection

/-- Of two runs in which the same comes in on a connection, the one that has served it up has read
as much as the other, and perhaps more. -/
theorem read_prefix_of_servesUp {scenario scenario' : Scenario} {opens opens' : List OpenScript}
    (harrived : (start scenario opens).trace (arrived n) moves <+: stream)
    (harrived' : (start scenario' opens').trace (arrived n') moves' <+: stream)
    (hserved : (start scenario' opens').ServesUp n' stream moves') :
    (start scenario opens).trace (read n) moves <+:
      (start scenario' opens').trace (read n') moves' := by
  have hread := (read_prefix_arrived scenario opens moves).trans harrived
  have hread' := (read_prefix_arrived scenario' opens' moves').trans harrived'
  rcases hserved with hall | ⟨item, hitem, hends⟩
  · rw [hall]
    exact hread
  · rcases List.prefix_or_prefix_of_prefix hread hread' with hless | ⟨more, hmore⟩
    · exact hless
    · -- the item that ends the connection is the last to be read in the other run too
      obtain ⟨front, back, hsplit⟩ := List.append_of_mem hitem
      rw [hsplit, List.append_assoc, List.cons_append] at hmore
      have hnone := eq_nil_of_endsConnection (start_shaped scenario opens)
        (World.Custody.start scenario opens) hmore.symm hends
      obtain ⟨rfl, rfl⟩ := List.append_eq_nil_iff.mp hnone
      have hsame := hmore.symm.trans hsplit.symm
      exact ⟨[], by rw [List.append_nil]; exact hsame⟩

/-- Every sequence of messages and failures of a socket condenses to one sequence. If two of them
condense to the same, the same frames and failures come of them. A session that serves a connection
on which these come in hands over the same events and acknowledges the same heartbeats, in this
order, whichever of the two it was, whoever else does what and when, and whatever follows: if one
session has served its connection up, another has done as much or less, and the same if it has
served up as well. Every frame comes back from the message that carries it. -/
theorem messages_count_as_condensed :
    (∀ items, ∃! rest, Message.Condenses items rest) ∧
      (∀ items items' rest, Message.Condenses items rest → Message.Condenses items' rest →
        Inbound.ofMessages items = Inbound.ofMessages items' ∧
          ∀ scenario scenario' opens opens' moves moves' n n' ending,
            let p := start scenario opens
            let p' := start scenario' opens'
            let stream := Inbound.ofMessages items ++ ending
            let stream' := Inbound.ofMessages items' ++ ending
            p.trace (arrived n) moves <+: stream → p'.trace (arrived n') moves' <+: stream' →
            p'.ServesUp n' stream' moves' →
              p.trace (responses n) moves <+: p'.trace (responses n') moves' ∧
                (p.ServesUp n stream moves →
                  p.trace (responses n) moves = p'.trace (responses n') moves')) ∧
      ∀ f : Frame, (Message.ofFrame f).frame? = some f := by
  refine ⟨fun items => ?_, fun items items' rest h h' => ?_, Message.frame?_ofFrame⟩
  · obtain ⟨rest, hrest⟩ := Message.exists_condenses items
    exact ⟨rest, hrest, fun other hother => hother.unique hrest⟩
  · have hsame : Inbound.ofMessages items = Inbound.ofMessages items' :=
      h.ofMessages.trans h'.ofMessages.symm
    refine ⟨hsame, ?_⟩
    intro scenario scenario' opens opens' moves moves' n n' ending p p' stream stream'
      harrived harrived' hserved'
    have hstream : stream' = stream := congrArg (· ++ ending) hsame.symm
    rw [hstream] at harrived' hserved'
    have hless := read_prefix_of_servesUp harrived harrived' hserved'
    rw [run_responses (start_shaped scenario opens), run_responses (start_shaped scenario' opens')]
    refine ⟨hless.filterMap _, fun hserved => ?_⟩
    have hmore := read_prefix_of_servesUp harrived' harrived hserved
    rw [hless.eq_of_length_le hmore.length_le]

/-- An event, as it comes. -/
def newsText : String := "\x7b\"type\":\"service.registered\"\x7d"

/-- The reply to a heartbeat, as an event. -/
def replyText : String := "\x7b\"type\":\"pong\"\x7d"

/-- An event and a reply, between which bytes come that no text has, and then a failure. -/
def garbled : List (Except String Message) :=
  [.ok (.binary newsText.toUTF8), .ok (.binary ⟨#[0xC0, 0x80]⟩), .ok (.text replyText),
    .ok (.fragment ⟨#[1]⟩), .error "reset", .ok (.text replyText)]

/-- The same, where the text that is sent as bytes is another one, and the bytes of a character are
cut short. -/
def clipped : List (Except String Message) :=
  [.ok (.fragment ⟨#[2, 3]⟩), .ok (.text newsText), .ok (.binary replyText.toUTF8), .error "reset",
    .ok (.text replyText), .ok (.binary ⟨#[0xE2, 0x82]⟩)]

/-- A connection comes with what the messages hold. -/
def supplied (items : List (Except String Message)) : Scenario where
  fallback := { items := Inbound.ofMessages items }

/-- A caller connects, the session comes to serve the connection, and then it goes on for some
steps. -/
def served (steps : Nat) : List Move :=
  .begin [.connect] :: List.replicate 12 (.step 0) ++
    .poll 1 :: List.replicate (11 + steps) (.step 1)

theorem messages_count_as_condensed_garbled :
    Inbound.ofMessages garbled = Inbound.ofMessages clipped ∧
      (start (supplied garbled) []).trace (responses 0) (served 1) <+:
        (start (supplied clipped) []).trace (responses 0) (served 5) ∧
      (start (supplied garbled) []).trace (responses 0) (served 9) =
        (start (supplied clipped) []).trace (responses 0) (served 5) ∧
      ((start (supplied garbled) []).trace (responses 0) (served 1)).length = 1 ∧
      ((start (supplied garbled) []).trace (responses 0) (served 9)).length = 2 := by
  have hgarbled : Message.Condenses garbled
      [.ok (.text newsText), .ok (.text replyText), .error "reset", .ok (.text replyText)] :=
    .text rfl (.bytes (decodeText_eq_none.mp (by decide +kernel)) (.keep nofun nofun
      (.part (.keep nofun nofun (.keep nofun nofun .nil)))))
  have hclipped : Message.Condenses clipped
      [.ok (.text newsText), .ok (.text replyText), .error "reset", .ok (.text replyText)] :=
    .part (.keep nofun nofun (.text rfl (.keep nofun nofun (.keep nofun nofun
      (.bytes (decodeText_eq_none.mp (by decide +kernel)) .nil)))))
  obtain ⟨hsame, hserve⟩ := messages_count_as_condensed.2.1 _ _ _ hgarbled hclipped
  have hreset : (Inbound.failed (.receive "reset")).EndsConnection := ⟨_, rfl⟩
  have hserved : (start (supplied clipped) []).ServesUp 0 (Inbound.ofMessages clipped ++ [])
      (served 5) := .inr ⟨_, by decide +kernel, hreset⟩
  have hserved' : (start (supplied garbled) []).ServesUp 0 (Inbound.ofMessages garbled ++ [])
      (served 9) := .inr ⟨_, by decide +kernel, hreset⟩
  refine ⟨hsame, ?_, ?_, by decide +kernel, by decide +kernel⟩
  · exact (hserve _ _ _ _ (served 1) (served 5) 0 0 [] (by decide +kernel) (by decide +kernel)
      hserved).1
  · exact (hserve _ _ _ _ (served 9) (served 5) 0 0 [] (by decide +kernel) (by decide +kernel)
      hserved).2 hserved'

end Pool

end Simulation

end EventFeed
