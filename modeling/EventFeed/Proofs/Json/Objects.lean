import EventFeed.Proofs.Json.Progress
import EventFeed.Proofs.Json.RoundTrip

/-! # Objects as they are written

The text of an object has its members in some order, with spaces between them, and may name one key
several times. What it denotes depends only on the last value written under each key.
-/

namespace EventFeed.Json

/-- The members of an object in the order of the text, from a place between its braces to the place
behind it. `first` says that no member stands before them. -/
inductive MembersText (depth : Nat) : Bool → Cursor → List (String × Json) → Cursor → Prop
  | close {first : Bool} {c : Cursor} :
      c.skipSpace.peek? = some '\x7d' → MembersText depth first c [] c.skipSpace.bump
  | member {first : Bool} {c d e f c' : Cursor} {key : String} {fuel : Nat} {v : Json}
      {members : List (String × Json)} :
      MemberStart first c d → Strings.read d.bump = .ok (key, e) →
      e.skipSpace.peek? = some ':' → readValue fuel depth e.skipSpace.bump = .ok (v, f) →
      MembersText depth false f members c' →
      MembersText depth first c ((key, v) :: members) c'

/-- A text that is one object with these members, whose values may hold so many levels. -/
structure ObjectText (depth : Nat) (raw : String) (members : List (String × Json)) : Prop where
  brace : (Cursor.ofString raw).skipSpace.peek? = some '\x7b'
  members : ∃ c, MembersText depth true (Cursor.ofString raw).skipSpace.bump members c ∧
    finishText c = .ok ()

/-- The last value written under a key. -/
def latest? (written : List (String × Json)) (key : String) : Option Json :=
  member? written.reverse key

/-- Each member takes a character at least, and so does the closing brace. -/
theorem MembersText.length_lt {depth : Nat} {first : Bool} {c c' : Cursor}
    {members : List (String × Json)} (h : MembersText depth first c members c') :
    members.length < c.rest.length := by
  induction h with
  | @close first c hbrace =>
    have := Cursor.length_skipSpace c
    have := Cursor.length_pos_of_peek? hbrace
    rw [List.length_nil]
    omega
  | @member first c d e f c' key fuel v members hstart hkey hcolon hvalue _ ih =>
    have := hstart.length_le
    have := Cursor.length_bump d
    have := Strings.length_read hkey
    have := Cursor.length_skipSpace e
    have := Cursor.length_bump_of_peek? hcolon
    have := length_readValue hvalue
    rw [List.length_cons]
    omega

/-! ## The last member of a key counts -/

theorem member?_cons (m : String × Json) (rest : List (String × Json)) (key : String) :
    member? (m :: rest) key = if m.1 = key then some m.2 else member? rest key := by
  unfold member?
  by_cases hkey : m.1 = key
  · simp [hkey]
  · simp [hkey]

theorem member?_insertMember (key : String) (value : Json) (members : List (String × Json))
    (other : String) :
    member? (insertMember key value members) other =
      if key = other then some value else member? members other := by
  induction members with
  | nil => rw [insertMember, member?_cons]
  | cons head rest ih =>
    obtain ⟨k, v⟩ := head
    unfold insertMember
    split
    · rw [member?_cons]
    split
    · next hkey =>
      subst hkey
      rw [member?_cons, member?_cons]
      by_cases hother : key = other
      · rw [if_pos hother, if_pos hother]
      · rw [if_neg hother, if_neg hother, if_neg hother]
    · next hkey =>
      rw [member?_cons, ih, member?_cons]
      by_cases hother : key = other
      · rw [if_pos hother, if_pos hother, if_neg fun hk => hkey (hother.trans hk.symm)]
      · rw [if_neg hother, if_neg hother]

theorem latest?_cons (m : String × Json) (rest : List (String × Json)) (key : String) :
    latest? (m :: rest) key =
      (latest? rest key).or (if m.1 = key then some m.2 else none) := by
  unfold latest? member?
  rw [List.reverse_cons, List.find?_append]
  cases rest.reverse.find? fun m => m.1 == key with
  | some _ => rfl
  | none =>
    by_cases hkey : m.1 = key
    · simp [hkey]
    · simp [hkey]

theorem member?_foldl_insertMember (written acc : List (String × Json)) (key : String) :
    member? (written.foldl (fun acc m => insertMember m.1 m.2 acc) acc) key =
      (latest? written key).or (member? acc key) := by
  induction written generalizing acc with
  | nil => rfl
  | cons m rest ih =>
    rw [List.foldl_cons, ih, member?_insertMember, latest?_cons, Option.or_assoc]
    by_cases hkey : m.1 = key
    · rw [if_pos hkey, if_pos hkey, Option.some_or]
    · rw [if_neg hkey, if_neg hkey, Option.none_or]

/-- Looking up a key in the object that was written finds the last value under that key. -/
theorem member?_of_ofMembers {written members : List (String × Json)}
    (h : ofMembers written = .obj members) (key : String) :
    member? members key = latest? written key := by
  obtain rfl : written.foldl (fun acc m => insertMember m.1 m.2 acc) [] = members :=
    Json.obj.inj h
  rw [member?_foldl_insertMember]
  exact Option.or_none

/-! ## Reading an object -/

variable {fuel depth : Nat} {first : Bool} {c c' : Cursor} {raw : String}
  {acc written members : List (String × Json)}

theorem exists_membersText_of_readMembers
    (h : readMembers fuel depth first acc c = .ok (members, c')) :
    ∃ written, MembersText depth first c written c' ∧
      members = written.foldl (fun acc m => insertMember m.1 m.2 acc) acc := by
  induction fuel using Nat.strongRecOn generalizing first acc c with
  | ind fuel ih =>
    cases fuel with
    | zero =>
      simp only [readMembers] at h
      cases h
    | succ fuel =>
      rcases readMembers_eq_ok.mp h with ⟨hbrace, rfl, rfl⟩ | ⟨d, hstart, hmember⟩
      · exact ⟨[], .close hbrace, rfl⟩
      cases fuel with
      | zero =>
        simp only [readMember] at hmember
        cases hmember
      | succ fuel =>
        obtain ⟨key, e, v, f, hkey, hcolon, hvalue, hrest⟩ := readMember_eq_ok.mp hmember
        obtain ⟨written, htext, hmembers⟩ := ih fuel (by omega) hrest
        exact ⟨(key, v) :: written, .member hstart hkey hcolon hvalue htext, hmembers⟩

theorem readMembers_of_membersText (h : MembersText depth first c written c')
    (acc : List (String × Json)) :
    ∃ fuel, readMembers fuel depth first acc c =
      .ok (written.foldl (fun acc m => insertMember m.1 m.2 acc) acc, c') := by
  induction h generalizing acc with
  | close hbrace => exact ⟨1, readMembers_eq_ok.mpr (.inl ⟨hbrace, rfl, rfl⟩)⟩
  | @member first c d e f c' key fuel v members hstart hkey hcolon hvalue _ ih =>
    obtain ⟨fuel', hrest⟩ := ih (insertMember key v acc)
    obtain ⟨more, hmore, hmore'⟩ : ∃ more, 2 * e.skipSpace.bump.rest.length < more ∧
        2 * f.rest.length + 1 < more :=
      ⟨2 * e.skipSpace.bump.rest.length + 2 * f.rest.length + 2, by omega, by omega⟩
    refine ⟨more + 2, readMembers_eq_ok.mpr (.inr ⟨d, hstart, ?_⟩)⟩
    exact readMember_eq_ok.mpr ⟨key, e, v, f, hkey, hcolon, readValue_of_length hvalue hmore,
      ((settled fuel').members hrest).2 hmore'⟩

/-- The text of an object denotes its members, each key with its last value. -/
theorem parse_of_objectText (h : ObjectText (depthLimit - 1) raw written) :
    parse raw = .ok (ofMembers written) := by
  obtain ⟨c, htext, hfinish⟩ := h.members
  obtain ⟨fuel, hmembers⟩ := readMembers_of_membersText htext []
  have hvalue : readValue (fuel + 1) depthLimit (Cursor.ofString raw) =
      .ok (ofMembers written, c) :=
    (readValue_object_eq_ok h.brace).mpr ⟨depthLimit - 1, _, rfl, hmembers, rfl⟩
  have hlength : 2 * (Cursor.ofString raw).rest.length <
      2 * (Cursor.ofString raw).rest.length + 2 := by omega
  simp only [parse, readValue_of_length hvalue hlength, hfinish, bind, Except.bind]
  rfl

/-- Every text that denotes an object is the text of some members. -/
theorem exists_objectText_of_parse (h : parse raw = .ok (.obj members)) :
    ∃ written, ObjectText (depthLimit - 1) raw written ∧ ofMembers written = .obj members := by
  obtain ⟨⟨v, c⟩, hvalue, h⟩ := exists_of_bind_ok h
  obtain ⟨⟨⟩, hfinish, h⟩ := exists_of_bind_ok h
  obtain rfl : v = .obj members := Except.ok.inj h
  have hlist : (Cursor.ofString raw).skipSpace.peek? ≠ some '[' := by
    intro hlist
    obtain ⟨_, items, -, -, hv⟩ := (readValue_list_eq_ok hlist).mp hvalue
    cases hv
  by_cases hobject : (Cursor.ofString raw).skipSpace.peek? = some '\x7b'
  · obtain ⟨d, members', hdepth, hmembers, hv⟩ := (readValue_object_eq_ok hobject).mp hvalue
    cases hv
    obtain rfl : depthLimit - 1 = d := by omega
    obtain ⟨written, htext, rfl⟩ := exists_membersText_of_readMembers hmembers
    exact ⟨written, ⟨hobject, c, htext, hfinish⟩, rfl⟩
  · -- A value without levels is no object.
    rw [readValue_scalar hlist hobject] at hvalue
    cases (sound 1).value hvalue

/-! ## Objects that are written out -/

/-- A written member is read up to what follows it. -/
theorem read_renderMember {m : String × Json} (hm : ReadsBack depth m.2) {rest : List Char}
    (hrest : Delimited rest) (p : Position) :
    ∃ d q, Strings.read (Cursor.bump ⟨renderMember m ++ rest, p⟩) = .ok (m.1, d) ∧
      d.skipSpace.peek? = some ':' ∧
      readValue (render m.2).length depth d.skipSpace.bump = .ok (m.2, ⟨rest, q⟩) := by
  have hcolon : Cursor.isSpace ':' = false := by decide
  obtain ⟨q, hkey⟩ := Strings.read_escaped m.1 (':' :: (render m.2 ++ rest)) (p.after '"')
  obtain ⟨q', hvalue⟩ := hm (q.after ':') (Nat.le_refl _) hrest
  have htext : renderMember m ++ rest =
      '"' :: (m.1.toList.flatMap escapeChar ++ '"' :: ':' :: (render m.2 ++ rest)) := by
    simp [renderMember, renderString]
  refine ⟨⟨':' :: (render m.2 ++ rest), q⟩, q', ?_, ?_, ?_⟩
  · rw [htext]
    exact hkey
  · rw [Cursor.skipSpace_of_not_space hcolon]
    rfl
  · rw [Cursor.skipSpace_of_not_space hcolon]
    exact hvalue

/-- The members behind the first one, each after its comma. -/
theorem membersText_flatMap (members : List (String × Json)) (rest : List Char) (p : Position)
    (hmembers : ∀ m ∈ members, ReadsBack depth m.2) :
    ∃ q, MembersText depth false
      ⟨(members.flatMap fun m => ',' :: renderMember m) ++ '\x7d' :: rest, p⟩ members
      ⟨rest, q⟩ := by
  induction members generalizing p with
  | nil =>
    have hspace : Cursor.isSpace '\x7d' = false := by decide
    have hclose := @MembersText.close depth false ⟨'\x7d' :: rest, p⟩
    rw [Cursor.skipSpace_of_not_space hspace] at hclose
    exact ⟨p.after '\x7d', hclose rfl⟩
  | cons m members ih =>
    obtain ⟨hm, hmembers⟩ := List.forall_mem_cons.mp hmembers
    have hdelimited := delimited_flatMap renderMember members (delimited_brace rest)
    obtain ⟨d, q, hkey, hcolon, hvalue⟩ := read_renderMember hm hdelimited (p.after ',')
    obtain ⟨q', htext⟩ := ih q hmembers
    refine ⟨q', .member ?_ hkey hcolon hvalue htext⟩
    obtain ⟨more, hquote, -⟩ := renderMember_eq_cons m
    have hcomma : Cursor.isSpace ',' = false := by decide
    have hspace : Cursor.isSpace '"' = false := by decide
    rw [List.flatMap_cons, List.cons_append, List.cons_append, List.append_assoc, hquote,
      List.cons_append]
    refine ⟨?_, rfl⟩
    rw [if_neg Bool.false_ne_true, Cursor.skipSpace_of_not_space hcomma]
    exact ⟨rfl, (Cursor.skipSpace_of_not_space hspace).symm⟩

/-- The text of members is an object text of them, in their order. -/
theorem objectText_recordText (hmembers : ∀ m ∈ members, ReadsBack depth m.2) :
    ObjectText depth (recordText members) members := by
  have hbrace : Cursor.isSpace '\x7b' = false := by decide
  have hchars : (recordText members).toList =
      '\x7b' :: (renderMembers members ++ '\x7d' :: []) := by
    simp [recordText]
  have hstart : (Cursor.ofString (recordText members)).skipSpace =
      ⟨'\x7b' :: (renderMembers members ++ '\x7d' :: []), .start⟩ := by
    rw [Cursor.ofString, hchars]
    exact Cursor.skipSpace_of_not_space hbrace
  have hfinish : ∀ q, finishText ⟨[], q⟩ = .ok () := fun _ => rfl
  refine ⟨by rw [hstart]; rfl, ?_⟩
  rw [hstart]
  cases members with
  | nil =>
    have hspace : Cursor.isSpace '\x7d' = false := by decide
    have hclose := @MembersText.close depth true ⟨['\x7d'], Position.start.after '\x7b'⟩
    rw [Cursor.skipSpace_of_not_space hspace] at hclose
    exact ⟨_, hclose rfl, hfinish _⟩
  | cons m members =>
    obtain ⟨hm, hmembers⟩ := List.forall_mem_cons.mp hmembers
    have hdelimited := delimited_flatMap renderMember members (delimited_brace [])
    obtain ⟨d, q, hkey, hcolon, hvalue⟩ :=
      read_renderMember hm hdelimited (Position.start.after '\x7b')
    obtain ⟨q', htext⟩ := membersText_flatMap members [] q hmembers
    refine ⟨⟨[], q'⟩, .member ?_ hkey hcolon hvalue htext, hfinish q'⟩
    obtain ⟨more, hquote, -⟩ := renderMember_eq_cons m
    have hspace : Cursor.isSpace '"' = false := by decide
    rw [renderMembers_cons, List.append_assoc, hquote, List.cons_append]
    refine ⟨?_, rfl⟩
    rw [if_pos rfl]
    exact (Cursor.skipSpace_of_not_space hspace).symm

end EventFeed.Json
