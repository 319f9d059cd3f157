import EventFeed.Proofs.Json.Values

/-! # Written values are read back

The compact text of a value without floating-point numbers denotes that value again, wherever it
stands: its strings and keys come back from their escapes, its integers from their digits, and its
levels are as many as were open to it.
-/

namespace EventFeed.Json

mutual

/-- Some number in the value is floating point. -/
def hasReal : Json → Bool
  | .real _ => true
  | .arr items => itemsHaveReal items
  | .obj members => membersHaveReal members
  | _ => false

def itemsHaveReal : List Json → Bool
  | [] => false
  | v :: rest => hasReal v || itemsHaveReal rest

def membersHaveReal : List (String × Json) → Bool
  | [] => false
  | m :: rest => hasReal m.2 || membersHaveReal rest

end

theorem hasReal_of_mem_items {items : List Json} (h : itemsHaveReal items = false) :
    ∀ v ∈ items, v.hasReal = false := by
  induction items with
  | nil => simp
  | cons v rest ih =>
    simp only [itemsHaveReal, Bool.or_eq_false_iff] at h
    exact List.forall_mem_cons.mpr ⟨h.1, ih h.2⟩

theorem hasReal_of_mem_members {members : List (String × Json)}
    (h : membersHaveReal members = false) : ∀ m ∈ members, m.2.hasReal = false := by
  induction members with
  | nil => simp
  | cons m rest ih =>
    simp only [membersHaveReal, Bool.or_eq_false_iff] at h
    exact List.forall_mem_cons.mpr ⟨h.1, ih h.2⟩

/-! ## The text of several values -/

def renderMember (m : String × Json) : List Char := renderString m.1 ++ ':' :: render m.2

theorem renderItems_cons (v : Json) (rest : List Json) :
    renderItems (v :: rest) = render v ++ rest.flatMap fun w => ',' :: render w := by
  induction rest generalizing v with
  | nil => simp [renderItems]
  | cons w rest ih =>
    rw [renderItems, ih, List.flatMap_cons]
    · rfl
    · simp

theorem renderMembers_cons (m : String × Json) (rest : List (String × Json)) :
    renderMembers (m :: rest) =
      renderMember m ++ rest.flatMap fun w => ',' :: renderMember w := by
  induction rest generalizing m with
  | nil => simp [renderMembers, renderMember]
  | cons w rest ih =>
    rw [renderMembers, ih, List.flatMap_cons, renderMember]
    · rfl
    · simp

/-! ## What reading a written value takes -/

/-- From the written value on, reading yields the value and stops behind it. The text has at least
as many characters as reading takes fuel. -/
def ReadsBack (depth : Nat) (v : Json) : Prop :=
  ∀ {fuel : Nat} {rest : List Char} (p : Position), (render v).length ≤ fuel → Delimited rest →
    Reads (readValue fuel depth ⟨render v ++ rest, p⟩) v rest

/-- The text starts with a character that neither is skipped nor closes a list. -/
def StartsInside (text : List Char) : Prop :=
  ∃ c more, text = c :: more ∧ Cursor.isSpace c = false ∧ c ≠ ']'

/-- An integer starts with its sign or a digit, which no other value does. -/
theorem renderInt_eq_cons (n : Int) :
    ∃ c more, renderInt n = c :: more ∧ (c = '-' ∨ Numeral.isDigit c = true) := by
  unfold renderInt
  split
  · exact ⟨_, _, rfl, .inl rfl⟩
  · obtain ⟨c, cs, hcons⟩ := List.exists_cons_of_ne_nil (@Nat.toDigits_ne_nil n.natAbs 10)
    exact ⟨c, cs, hcons, .inr (Numeral.isDigit_of_mem_toDigits (n := n.natAbs) (by simp [hcons]))⟩

theorem not_space_of_number {c : Char} (h : c = '-' ∨ Numeral.isDigit c = true) :
    Cursor.isSpace c = false := by
  cases hspace : Cursor.isSpace c with
  | false => rfl
  | true =>
    simp only [Cursor.isSpace, Bool.or_eq_true, beq_iff_eq] at hspace
    rcases hspace with ((rfl | rfl) | rfl) | rfl <;> exact absurd h (by decide)

theorem startsInside_renderInt (n : Int) : StartsInside (renderInt n) := by
  obtain ⟨c, more, hcons, hstart⟩ := renderInt_eq_cons n
  refine ⟨c, more, hcons, not_space_of_number hstart, ?_⟩
  rintro rfl
  exact absurd hstart (by decide)

theorem startsInside_render {v : Json} (h : v.hasReal = false) : StartsInside (render v) := by
  cases v with
  | null => exact ⟨_, _, rfl, by decide, by decide⟩
  | bool b => cases b <;> exact ⟨_, _, rfl, by decide, by decide⟩
  | int n => exact startsInside_renderInt n
  | real x => cases h
  | str s => exact ⟨_, _, rfl, by decide, by decide⟩
  | arr items => exact ⟨_, _, rfl, by decide, by decide⟩
  | obj members => exact ⟨_, _, rfl, by decide, by decide⟩

theorem delimited_flatMap (text : α → List Char) (items : List α) {c : Char} {rest : List Char}
    (h : Delimited (c :: rest)) :
    Delimited ((items.flatMap fun a => ',' :: text a) ++ c :: rest) := by
  cases items with
  | nil => exact h
  | cons a items => exact delimited_comma _

variable {fuel depth : Nat} {rest : List Char}

/-! ## Lists -/

theorem readItems_close (first : Bool) (acc : List Json) (p : Position) :
    readItems (fuel + 1) depth first acc ⟨']' :: rest, p⟩ =
      .ok (acc.reverse, ⟨rest, p.after ']'⟩) := by
  have hspace : Cursor.isSpace ']' = false := by decide
  simp [readItems, Cursor.skipSpace_of_not_space hspace, Cursor.bump]

theorem readItems_first {text : List Char} (htext : StartsInside text) (acc : List Json)
    (p : Position) :
    readItems (fuel + 1) depth true acc ⟨text ++ rest, p⟩ =
      (readValue fuel depth ⟨text ++ rest, p⟩ >>= fun r =>
        readItems fuel depth false (r.1 :: acc) r.2) := by
  obtain ⟨c, more, rfl, hspace, hbracket⟩ := htext
  simp [readItems, Cursor.skipSpace_of_not_space hspace, hbracket]

theorem readItems_next {text : List Char} (htext : StartsInside text) (acc : List Json)
    (p : Position) :
    readItems (fuel + 1) depth false acc ⟨',' :: (text ++ rest), p⟩ =
      (readValue fuel depth ⟨text ++ rest, p.after ','⟩ >>= fun r =>
        readItems fuel depth false (r.1 :: acc) r.2) := by
  obtain ⟨c, more, rfl, hspace, hbracket⟩ := htext
  have hcomma : Cursor.isSpace ',' = false := by decide
  simp [readItems, Cursor.skipSpace_of_not_space hcomma, Cursor.bump,
    Cursor.skipSpace_of_not_space hspace, hbracket]

/-- The items behind the first one, each after its comma. -/
theorem readItems_flatMap (items acc : List Json) (rest : List Char) (p : Position)
    (hitems : ∀ v ∈ items, ReadsBack depth v ∧ StartsInside (render v))
    (hfuel : (items.flatMap fun v => ',' :: render v).length < fuel) :
    Reads (readItems fuel depth false acc
      ⟨(items.flatMap fun v => ',' :: render v) ++ ']' :: rest, p⟩) (acc.reverse ++ items)
      rest := by
  induction items generalizing acc p fuel with
  | nil =>
    obtain ⟨fuel, rfl⟩ : ∃ k, fuel = k + 1 := ⟨fuel - 1, by omega⟩
    rw [List.append_nil]
    exact ⟨p.after ']', readItems_close false acc p⟩
  | cons v items ih =>
    obtain ⟨fuel, rfl⟩ : ∃ k, fuel = k + 1 := ⟨fuel - 1, by omega⟩
    obtain ⟨hv, hitems⟩ := List.forall_mem_cons.mp hitems
    rw [List.flatMap_cons, List.length_append, List.length_cons] at hfuel
    have hdelimited := delimited_flatMap render items (delimited_bracket rest)
    have hroom : (render v).length ≤ fuel := by omega
    have hroom' : (items.flatMap fun v => ',' :: render v).length < fuel := by omega
    obtain ⟨q, hvalue⟩ := hv.1 (p.after ',') hroom hdelimited
    obtain ⟨q', hrest⟩ := ih (v :: acc) q hitems hroom'
    refine ⟨q', ?_⟩
    rw [List.flatMap_cons, List.cons_append, List.cons_append, List.append_assoc,
      readItems_next hv.2, hvalue]
    rw [List.reverse_cons, List.append_assoc] at hrest
    exact hrest

/-- All items of a list, from behind its opening bracket on. -/
theorem readItems_renderItems (items : List Json) (rest : List Char) (p : Position)
    (hitems : ∀ v ∈ items, ReadsBack depth v ∧ StartsInside (render v))
    (hfuel : (renderItems items).length < fuel) :
    Reads (readItems fuel depth true [] ⟨renderItems items ++ ']' :: rest, p⟩) items rest := by
  obtain ⟨fuel, rfl⟩ : ∃ k, fuel = k + 1 := ⟨fuel - 1, by omega⟩
  cases items with
  | nil => exact ⟨p.after ']', readItems_close true [] p⟩
  | cons v items =>
    obtain ⟨hv, hitems⟩ := List.forall_mem_cons.mp hitems
    rw [renderItems_cons, List.length_append] at hfuel
    have hpos : 0 < (render v).length := by
      obtain ⟨c, more, hrender, -⟩ := hv.2
      simp [hrender]
    have hdelimited := delimited_flatMap render items (delimited_bracket rest)
    have hroom : (render v).length ≤ fuel := by omega
    have hroom' : (items.flatMap fun v => ',' :: render v).length < fuel := by omega
    obtain ⟨q, hvalue⟩ := hv.1 p hroom hdelimited
    obtain ⟨q', hrest⟩ := readItems_flatMap items [v] rest q hitems hroom'
    refine ⟨q', ?_⟩
    rw [renderItems_cons, List.append_assoc, readItems_first hv.2, hvalue]
    exact hrest

/-! ## Objects -/

theorem readMembers_close (first : Bool) (acc : List (String × Json)) (p : Position) :
    readMembers (fuel + 1) depth first acc ⟨'\x7d' :: rest, p⟩ =
      .ok (acc, ⟨rest, p.after '\x7d'⟩) := by
  have hspace : Cursor.isSpace '\x7d' = false := by decide
  simp [readMembers, Cursor.skipSpace_of_not_space hspace, Cursor.bump]

theorem readMembers_first (acc : List (String × Json)) (p : Position) :
    readMembers (fuel + 1) depth true acc ⟨'"' :: rest, p⟩ =
      readMember fuel depth acc ⟨'"' :: rest, p⟩ := by
  have hspace : Cursor.isSpace '"' = false := by decide
  simp [readMembers, Cursor.skipSpace_of_not_space hspace]

theorem readMembers_next (acc : List (String × Json)) (p : Position) :
    readMembers (fuel + 1) depth false acc ⟨',' :: '"' :: rest, p⟩ =
      readMember fuel depth acc ⟨'"' :: rest, p.after ','⟩ := by
  have hcomma : Cursor.isSpace ',' = false := by decide
  have hspace : Cursor.isSpace '"' = false := by decide
  simp [readMembers, Cursor.skipSpace_of_not_space hcomma, Cursor.bump,
    Cursor.skipSpace_of_not_space hspace]

/-- One member is read up to what follows it and is added to those before it. -/
theorem readMember_renderMember {m : String × Json} (hm : ReadsBack depth m.2)
    (acc : List (String × Json)) (p : Position) (hfuel : (render m.2).length ≤ fuel)
    (hrest : Delimited rest) :
    ∃ q, readMember (fuel + 1) depth acc ⟨renderMember m ++ rest, p⟩ =
      readMembers fuel depth false (insertMember m.1 m.2 acc) ⟨rest, q⟩ := by
  have hcolon : Cursor.isSpace ':' = false := by decide
  obtain ⟨q, hkey⟩ :=
    Strings.read_escaped m.1 (':' :: (render m.2 ++ rest)) (p.after '"')
  obtain ⟨q', hvalue⟩ := hm (q.after ':') hfuel hrest
  refine ⟨q', ?_⟩
  have htext : renderMember m ++ rest =
      '"' :: (m.1.toList.flatMap escapeChar ++ '"' :: ':' :: (render m.2 ++ rest)) := by
    simp [renderMember, renderString]
  rw [htext, readMember]
  simp only [Cursor.bump, hkey, bind, Except.bind, Cursor.skipSpace_of_not_space hcolon, hvalue]

theorem renderMember_eq_cons (m : String × Json) :
    ∃ more, renderMember m = '"' :: more ∧ (render m.2).length < more.length :=
  ⟨_, rfl, by simp; omega⟩

/-- The members behind the first one, each after its comma. -/
theorem readMembers_flatMap (members acc : List (String × Json)) (rest : List Char)
    (p : Position)
    (hmembers : ∀ m ∈ members, ReadsBack depth m.2)
    (hfuel : (members.flatMap fun m => ',' :: renderMember m).length < fuel) :
    Reads (readMembers fuel depth false acc
      ⟨(members.flatMap fun m => ',' :: renderMember m) ++ '\x7d' :: rest, p⟩)
      (members.foldl (fun acc m => insertMember m.1 m.2 acc) acc) rest := by
  induction members generalizing acc p fuel with
  | nil =>
    obtain ⟨fuel, rfl⟩ : ∃ k, fuel = k + 1 := ⟨fuel - 1, by omega⟩
    exact ⟨p.after '\x7d', readMembers_close false acc p⟩
  | cons m members ih =>
    obtain ⟨hm, hmembers⟩ := List.forall_mem_cons.mp hmembers
    obtain ⟨more, htext, hlength⟩ := renderMember_eq_cons m
    rw [List.flatMap_cons, List.length_append, List.length_cons, htext, List.length_cons]
      at hfuel
    obtain ⟨fuel, rfl⟩ : ∃ k, fuel = k + 2 := ⟨fuel - 2, by omega⟩
    have hdelimited := delimited_flatMap renderMember members (delimited_brace rest)
    have hroom : (render m.2).length ≤ fuel := by omega
    have hroom' : (members.flatMap fun m => ',' :: renderMember m).length < fuel := by omega
    obtain ⟨q, hmember⟩ := readMember_renderMember hm acc (p.after ',') hroom hdelimited
    obtain ⟨q', hrest⟩ := ih (insertMember m.1 m.2 acc) q hmembers hroom'
    refine ⟨q', ?_⟩
    rw [htext, List.cons_append] at hmember
    rw [List.flatMap_cons, List.cons_append, List.cons_append, List.append_assoc, htext,
      List.cons_append, readMembers_next, hmember, List.foldl_cons]
    exact hrest

/-- All members of an object, from behind its opening brace on. They may stand in any order. -/
theorem readMembers_renderMembers (members : List (String × Json)) (rest : List Char)
    (p : Position)
    (hmembers : ∀ m ∈ members, ReadsBack depth m.2)
    (hfuel : (renderMembers members).length < fuel) :
    Reads (readMembers fuel depth true [] ⟨renderMembers members ++ '\x7d' :: rest, p⟩)
      (members.foldl (fun acc m => insertMember m.1 m.2 acc) []) rest := by
  cases members with
  | nil =>
    obtain ⟨fuel, rfl⟩ : ∃ k, fuel = k + 1 := ⟨fuel - 1, by omega⟩
    exact ⟨p.after '\x7d', readMembers_close true [] p⟩
  | cons m members =>
    obtain ⟨hm, hmembers⟩ := List.forall_mem_cons.mp hmembers
    obtain ⟨more, htext, hlength⟩ := renderMember_eq_cons m
    rw [renderMembers_cons, List.length_append, htext, List.length_cons] at hfuel
    obtain ⟨fuel, rfl⟩ : ∃ k, fuel = k + 2 := ⟨fuel - 2, by omega⟩
    have hdelimited := delimited_flatMap renderMember members (delimited_brace rest)
    have hroom : (render m.2).length ≤ fuel := by omega
    have hroom' : (members.flatMap fun m => ',' :: renderMember m).length < fuel := by omega
    obtain ⟨q, hmember⟩ := readMember_renderMember hm [] p hroom hdelimited
    obtain ⟨q', hrest⟩ := readMembers_flatMap members (insertMember m.1 m.2 []) rest q hmembers
      hroom'
    refine ⟨q', ?_⟩
    rw [htext, List.cons_append] at hmember
    rw [renderMembers_cons, List.append_assoc, htext, List.cons_append, readMembers_first,
      hmember, List.foldl_cons]
    exact hrest

/-! ## Values -/

theorem readValue_renderInt {n : Int} (hlow : minInt ≤ n) (hhigh : n ≤ maxInt)
    (hrest : Delimited rest) (p : Position) :
    Reads (readValue (fuel + 1) depth ⟨renderInt n ++ rest, p⟩) (.int n) rest := by
  obtain ⟨q, hread⟩ := Numeral.read_renderInt hlow hhigh hrest p
  obtain ⟨c, more, hcons, hstart⟩ := renderInt_eq_cons n
  rw [hcons, List.cons_append] at hread
  refine ⟨q, ?_⟩
  have hspace := not_space_of_number hstart
  have hnull : c ≠ 'n' := by rintro rfl; exact absurd hstart (by decide)
  have htrue : c ≠ 't' := by rintro rfl; exact absurd hstart (by decide)
  have hfalse : c ≠ 'f' := by rintro rfl; exact absurd hstart (by decide)
  have hnumber : (c = '-' || Numeral.isDigit c) = true := by simpa using hstart
  rw [hcons, List.cons_append, readValue.eq_def]
  simp only [Cursor.skipSpace_of_not_space hspace, if_neg hnull, if_neg htrue, if_neg hfalse,
    if_pos hnumber, hread]
  rfl

theorem readValue_renderString (s : String) (p : Position) :
    Reads (readValue (fuel + 1) depth ⟨renderString s ++ rest, p⟩) (.str s) rest := by
  obtain ⟨q, hread⟩ := Strings.read_escaped s rest (p.after '"')
  have hspace : Cursor.isSpace '"' = false := by decide
  have htext : renderString s ++ rest = '"' :: (s.toList.flatMap escapeChar ++ '"' :: rest) := by
    simp [renderString]
  refine ⟨q, ?_⟩
  rw [htext, readValue.eq_def]
  simp [Cursor.skipSpace_of_not_space hspace, Numeral.isDigit, Cursor.bump, hread, bind,
    Except.bind, pure, Except.pure]

theorem readValue_bracket (p : Position) :
    readValue (fuel + 1) (depth + 1) ⟨'[' :: rest, p⟩ =
      (readItems fuel depth true [] ⟨rest, p.after '['⟩ >>= fun r => .ok (.arr r.1, r.2)) := by
  have hspace : Cursor.isSpace '[' = false := by decide
  simp [readValue, Cursor.skipSpace_of_not_space hspace, Numeral.isDigit, Cursor.bump, pure,
    Except.pure]

theorem readValue_brace (p : Position) :
    readValue (fuel + 1) (depth + 1) ⟨'\x7b' :: rest, p⟩ =
      (readMembers fuel depth true [] ⟨rest, p.after '\x7b'⟩ >>= fun r =>
        .ok (.obj r.1, r.2)) := by
  have hspace : Cursor.isSpace '\x7b' = false := by decide
  simp [readValue, Cursor.skipSpace_of_not_space hspace, Numeral.isDigit, Cursor.bump, pure,
    Except.pure]

/-- Every text has a character, so reading it starts with some fuel. -/
theorem readsBack_of_succ {v : Json} (hreal : v.hasReal = false)
    (h : ∀ {fuel : Nat} {rest : List Char} (p : Position), (render v).length ≤ fuel + 1 →
      Delimited rest → Reads (readValue (fuel + 1) depth ⟨render v ++ rest, p⟩) v rest) :
    ReadsBack depth v := by
  intro fuel rest p hfuel hrest
  obtain ⟨c, more, hcons, -⟩ := startsInside_render hreal
  obtain ⟨fuel, rfl⟩ : ∃ k, fuel = k + 1 := by
    rw [hcons, List.length_cons] at hfuel
    exact ⟨fuel - 1, by omega⟩
  exact h p hfuel hrest

theorem readsBack_null : ReadsBack depth .null := by
  refine readsBack_of_succ rfl fun {_ rest} p _ _ =>
    ⟨(((p.after 'n').after 'u').after 'l').after 'l', ?_⟩
  have hspace : Cursor.isSpace 'n' = false := by decide
  simp [render, readValue.eq_def, Cursor.skipSpace_of_not_space hspace, Cursor.word, bind,
    Except.bind, pure, Except.pure]

theorem readsBack_true : ReadsBack depth (.bool true) := by
  refine readsBack_of_succ rfl fun {_ rest} p _ _ =>
    ⟨(((p.after 't').after 'r').after 'u').after 'e', ?_⟩
  have hspace : Cursor.isSpace 't' = false := by decide
  simp [render, readValue.eq_def, Cursor.skipSpace_of_not_space hspace, Cursor.word, bind,
    Except.bind, pure, Except.pure]

theorem readsBack_false : ReadsBack depth (.bool false) := by
  refine readsBack_of_succ rfl fun {_ rest} p _ _ =>
    ⟨((((p.after 'f').after 'a').after 'l').after 's').after 'e', ?_⟩
  have hspace : Cursor.isSpace 'f' = false := by decide
  simp [render, readValue.eq_def, Cursor.skipSpace_of_not_space hspace, Cursor.word, bind,
    Except.bind, pure, Except.pure]

theorem readsBack_arr {items : List Json} (hreal : itemsHaveReal items = false)
    (hitems : ∀ v ∈ items, ReadsBack depth v) : ReadsBack (depth + 1) (.arr items) := by
  refine readsBack_of_succ (v := .arr items) hreal fun {fuel rest} p hfuel _ => ?_
  have hstarts : ∀ v ∈ items, ReadsBack depth v ∧ StartsInside (render v) := fun v hv =>
    ⟨hitems v hv, startsInside_render (hasReal_of_mem_items hreal v hv)⟩
  simp only [render, List.length_cons, List.length_append, List.length_nil] at hfuel
  have hroom : (renderItems items).length < fuel := by omega
  obtain ⟨q, hread⟩ := readItems_renderItems items rest (p.after '[') hstarts hroom
  refine ⟨q, ?_⟩
  rw [render, List.cons_append, List.append_assoc, readValue_bracket, List.singleton_append,
    hread]
  rfl

theorem readsBack_obj {members : List (String × Json)} (hreal : membersHaveReal members = false)
    (hascending : Ascending members) (hmembers : ∀ m ∈ members, ReadsBack depth m.2) :
    ReadsBack (depth + 1) (.obj members) := by
  refine readsBack_of_succ (v := .obj members) hreal fun {fuel rest} p hfuel _ => ?_
  simp only [render, List.length_cons, List.length_append, List.length_nil] at hfuel
  have hroom : (renderMembers members).length < fuel := by omega
  obtain ⟨q, hread⟩ := readMembers_renderMembers members rest (p.after '\x7b') hmembers hroom
  rw [foldl_insertMember_of_ascending [] members hascending, List.nil_append] at hread
  refine ⟨q, ?_⟩
  rw [render, List.cons_append, List.append_assoc, readValue_brace, List.singleton_append, hread]
  rfl

/-- A value that fits is read back from its own text when none of its numbers is floating point.
The induction is on the value: a list or an object is read back because what it holds is. -/
theorem readsBack_of_fits {v : Json} (hfits : v.Fits depth) (hreal : v.hasReal = false) :
    ReadsBack depth v := by
  induction hfits with
  | null => exact readsBack_null
  | bool b =>
    cases b with
    | true => exact readsBack_true
    | false => exact readsBack_false
  | int hlow hhigh =>
    exact readsBack_of_succ hreal fun p _ hrest => readValue_renderInt hlow hhigh hrest p
  | real x => cases hreal
  | str s => exact readsBack_of_succ hreal fun p _ _ => readValue_renderString s p
  | arr _ ih =>
    refine readsBack_arr hreal fun v hv => ih v hv ?_
    exact hasReal_of_mem_items hreal v hv
  | obj hascending _ ih =>
    refine readsBack_obj hreal hascending fun m hm => ih m hm ?_
    exact hasReal_of_mem_members hreal m hm

/-! ## Texts -/

/-- A text of members denotes the object that holds them in the order of their keys. -/
theorem parse_recordText {members : List (String × Json)}
    (hfits : ∀ m ∈ members, m.2.Fits (depthLimit - 1))
    (hreal : ∀ m ∈ members, m.2.hasReal = false) :
    parse (recordText members) = .ok (ofMembers members) := by
  have hmembers : ∀ m ∈ members, ReadsBack (depthLimit - 1) m.2 := fun m hm =>
    readsBack_of_fits (hfits m hm) (hreal m hm)
  have hchars : (recordText members).toList =
      '\x7b' :: (renderMembers members ++ '\x7d' :: []) := by
    simp [recordText]
  have hroom : (renderMembers members).length < 2 * (recordText members).toList.length + 1 := by
    simp only [hchars, List.length_cons, List.length_append]
    omega
  obtain ⟨q, hread⟩ := readMembers_renderMembers members [] (Position.start.after '\x7b')
    hmembers hroom
  have hvalue : readValue (2 * (recordText members).toList.length + 2) depthLimit
      (Cursor.ofString (recordText members)) = .ok (ofMembers members, ⟨[], q⟩) := by
    rw [Cursor.ofString, hchars, depthLimit, readValue_brace, ← hchars]
    simp only [depthLimit, Nat.add_one_sub_one] at hread
    rw [hread]
    rfl
  simp only [parse, Cursor.ofString] at hvalue ⊢
  rw [hvalue]
  rfl

end EventFeed.Json
