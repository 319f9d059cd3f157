import EventFeed.Proofs.Json.Numbers
import EventFeed.Proofs.Basic
import EventFeed.Json.Parser

/-! # Reading uses up the text

Every value, item and member that is read shortens the text. What a reader yields therefore does not
depend on its fuel: a text that can be read at all is read with twice its length.
-/

namespace EventFeed.Json

variable {c c' : Cursor}

namespace Cursor

theorem length_skipWhile (test : Char → Bool) (c : Cursor) :
    (c.skipWhile test).rest.length ≤ c.rest.length := by
  rw [skipWhile_rest]
  exact (List.dropWhile_suffix test).length_le

theorem length_skipSpace (c : Cursor) : c.skipSpace.rest.length ≤ c.rest.length :=
  length_skipWhile isSpace c

theorem bump_rest (c : Cursor) : c.bump.rest = c.rest.tail := by
  obtain ⟨rest, p⟩ := c
  cases rest <;> rfl

theorem length_bump (c : Cursor) : c.bump.rest.length = c.rest.length - 1 := by
  rw [bump_rest, List.length_tail]

theorem length_pos_of_peek? {ch : Char} (h : c.peek? = some ch) : 0 < c.rest.length :=
  List.length_pos_of_mem (List.mem_of_head? h)

/-- A character that is there is read. -/
theorem length_bump_of_peek? {ch : Char} (h : c.peek? = some ch) :
    c.bump.rest.length < c.rest.length := by
  have := length_pos_of_peek? h
  rw [length_bump]
  omega

theorem peek?_of_rest {ch : Char} {rest : List Char} (h : c.rest = ch :: rest) :
    c.peek? = some ch := by
  rw [peek?, h]
  rfl

theorem length_word {cs : List Char} (h : word cs c = .ok c') :
    c'.rest.length + cs.length = c.rest.length := by
  induction cs generalizing c with
  | nil =>
    cases h
    rfl
  | cons expected more ih =>
    unfold word at h
    split at h
    · cases h
    · next hrest =>
      split at h
      · have := ih h
        rw [hrest]
        simp only [List.length_cons] at this ⊢
        omega
      · cases h

end Cursor

open Cursor

namespace Strings

theorem length_readUnit {n : Nat} (h : readUnit c = .ok (n, c')) :
    c'.rest.length < c.rest.length := by
  unfold readUnit at h
  dsimp only at h
  split at h
  · next hrest =>
    split at h
    · cases h
      rw [hrest]
      simp only [List.length_cons]
      omega
    · cases h
  · split at h <;> cases h

theorem length_readLink {expected : Char} (h : readLink expected c = .ok c') :
    c'.rest.length < c.rest.length := by
  unfold readLink at h
  split at h
  · cases h
  · next hrest =>
    split at h
    · cases h
      rw [hrest]
      exact Nat.lt_succ_self _
    · cases h

theorem length_readUnicode {ch : Char} (h : readUnicode c = .ok (ch, c')) :
    c'.rest.length < c.rest.length := by
  obtain ⟨⟨n, c₁⟩, hunit, h⟩ := exists_of_bind_ok h
  have hfirst := length_readUnit hunit
  dsimp only at h
  split at h
  · cases h
  split at h
  · obtain ⟨c₂, hslash, h⟩ := exists_of_bind_ok h
    obtain ⟨c₃, hmark, h⟩ := exists_of_bind_ok h
    obtain ⟨⟨m, c₄⟩, hunit', h⟩ := exists_of_bind_ok h
    have hsecond := length_readLink hslash
    have hthird := length_readLink hmark
    have hfourth := length_readUnit hunit'
    dsimp only at h
    split at h
    · simp only [Except.ok.injEq, Prod.mk.injEq] at h
      rw [← h.2]
      omega
    · cases h
  · cases h
    exact hfirst

theorem length_readEscape {ch : Char} (h : readEscape c = .ok (ch, c')) :
    c'.rest.length < c.rest.length := by
  unfold readEscape at h
  split at h
  · cases h
  · next hrest =>
    have := length_readUnicode h
    have := length_bump_of_peek? (peek?_of_rest hrest)
    omega
  · next hrest =>
    split at h
    · cases h
      exact length_bump_of_peek? (peek?_of_rest hrest)
    · cases h

theorem length_readChar {ch : Option Char} (h : readChar c = .ok (ch, c')) :
    c'.rest.length < c.rest.length := by
  unfold readChar at h
  split at h
  · cases h
  · next hrest =>
    cases h
    exact length_bump_of_peek? (peek?_of_rest hrest)
  · next hrest =>
    obtain ⟨⟨e, c₁⟩, hescape, h⟩ := exists_of_bind_ok h
    cases h
    have := length_readEscape hescape
    have := length_bump_of_peek? (peek?_of_rest hrest)
    omega
  · next hrest =>
    split at h
    · cases h
    · cases h
      exact length_bump_of_peek? (peek?_of_rest hrest)

theorem length_readChars {fuel : Nat} {acc cs : List Char}
    (h : readChars fuel acc c = .ok (cs, c')) : c'.rest.length < c.rest.length := by
  induction fuel generalizing acc c with
  | zero => cases h
  | succ fuel ih =>
    unfold readChars at h
    split at h
    · cases h
    · next hchar =>
      cases h
      exact length_readChar hchar
    · next hchar => exact Nat.lt_trans (ih h) (length_readChar hchar)

/-- A string that is read ends behind its closing quote. -/
theorem length_read {s : String} (h : read c = .ok (s, c')) :
    c'.rest.length < c.rest.length := by
  obtain ⟨⟨cs, c₁⟩, hchars, h⟩ := exists_of_bind_ok h
  cases h
  exact length_readChars hchars

end Strings

namespace Numeral

variable {negative : Bool} {significand : Nat} {exponent : Int} {x : Numeral}

theorem finish_stays (h : finish c negative significand exponent = .ok (x, c')) : c' = c := by
  unfold finish at h
  cases hscaled : scaled? negative significand exponent with
  | none =>
    rw [hscaled] at h
    cases h
  | some y =>
    rw [hscaled] at h
    cases h
    rfl

theorem length_exponentDigits (value : Nat) (c : Cursor) (ds : List Char) :
    (exponentDigits value c ds).2.rest.length ≤ c.rest.length := by
  induction ds generalizing value c with
  | nil => exact Nat.le_refl _
  | cons d ds ih =>
    have := length_bump c
    unfold exponentDigits
    split
    · have := ih (value * 10 + digit d) c.bump
      omega
    · dsimp only
      omega

theorem length_readExponent (h : readExponent c negative significand exponent = .ok (x, c')) :
    c'.rest.length ≤ c.rest.length := by
  unfold readExponent at h
  extract_lets start at h
  have hmark : start.rest.length = c.rest.length - 1 := length_bump c
  have hsign := length_bump start
  split at h
  next down c₁ hstart =>
    have hstart : c₁.rest.length ≤ c.rest.length := by
      split at hstart <;> cases hstart <;> omega
    split at h
    · cases h
    split at h
    · split at h
      · next hdigits =>
        have hcount := length_exponentDigits 0 c₁ (c₁.rest.takeWhile isDigit)
        rw [hdigits] at hcount
        rw [finish_stays h]
        exact Nat.le_trans hcount hstart
      · next hdigits =>
        have hcount := length_exponentDigits 0 c₁ (c₁.rest.takeWhile isDigit)
        rw [hdigits] at hcount
        split at h
        · cases h
        · cases h
          exact Nat.le_trans (length_skipWhile isDigit _) (Nat.le_trans hcount hstart)
    · cases h

theorem length_readFraction (h : readFraction c negative significand exponent = .ok (x, c')) :
    c'.rest.length ≤ c.rest.length := by
  have hpoint := length_bump c
  have hdigits : (digits c.bump).2.rest.length ≤ c.bump.rest.length :=
    length_skipWhile isDigit c.bump
  simp only [readFraction] at h
  split at h
  · split at h <;> cases h
  split at h
  · have := length_readExponent h
    omega
  · rw [finish_stays h]
    omega

theorem length_readRest {dropped : Nat}
    (h : readRest c negative significand dropped = .ok (x, c')) :
    c'.rest.length ≤ c.rest.length := by
  unfold readRest at h
  split at h
  · exact length_readFraction h
  split at h
  · exact length_readExponent h
  split at h
  · cases h
    exact Nat.le_refl _
  · exact (finish_stays h) ▸ Nat.le_refl _

theorem length_readDigits (h : readDigits c negative = .ok (x, c')) :
    c'.rest.length < c.rest.length := by
  simp only [readDigits] at h
  split at h
  · cases h
  next ch rest hrest =>
    have hbump := length_bump_of_peek? (peek?_of_rest hrest)
    split at h
    · split at h
      · split at h
        · cases h
        · exact Nat.lt_of_le_of_lt (length_readRest h) hbump
      · exact Nat.lt_of_le_of_lt (length_readRest h) hbump
    split at h
    · next hdigit =>
      have hdigits : (digits c).2.rest = rest.dropWhile isDigit := by
        rw [digits, skipWhile_rest, hrest, List.dropWhile_cons_of_pos hdigit]
      have hshort : (rest.dropWhile isDigit).length ≤ rest.length :=
        (List.dropWhile_suffix isDigit).length_le
      have hread := length_readRest h
      rw [hdigits] at hread
      rw [hrest, List.length_cons]
      omega
    · cases h

theorem length_read (h : read c = .ok (x, c')) : c'.rest.length < c.rest.length := by
  unfold read at h
  split at h
  · have := length_readDigits h
    have := length_bump c
    omega
  · exact length_readDigits h

end Numeral

/-! ## One step of each reader -/

variable {fuel depth : Nat} {first : Bool}

/-- Where the next member starts: at the first character that is not a space, behind a comma unless
the member is the first. -/
structure MemberStart (first : Bool) (c d : Cursor) : Prop where
  place : if first then d = c.skipSpace
    else c.skipSpace.peek? = some ',' ∧ d = c.skipSpace.bump.skipSpace
  quote : d.peek? = some '"'

theorem MemberStart.length_le {d : Cursor} (h : MemberStart first c d) :
    d.rest.length ≤ c.rest.length := by
  have hplace := h.place
  have hspace := length_skipSpace c
  split at hplace
  · rw [hplace]
    exact hspace
  · have := length_bump c.skipSpace
    have := length_skipSpace c.skipSpace.bump
    rw [hplace.2]
    omega

theorem MemberStart.unique {d d' : Cursor} (h : MemberStart first c d)
    (h' : MemberStart first c d') : d = d' := by
  have hplace := h.place
  have hplace' := h'.place
  cases first with
  | true =>
    rw [if_pos rfl] at hplace hplace'
    rw [hplace, hplace']
  | false =>
    rw [if_neg Bool.false_ne_true] at hplace hplace'
    rw [hplace.2, hplace'.2]

/-- No member starts where the object ends. -/
theorem MemberStart.not_close {d : Cursor} (h : MemberStart first c d) :
    c.skipSpace.peek? ≠ some '\x7d' := by
  obtain ⟨hplace, hquote⟩ := h
  intro hclose
  cases first with
  | true =>
    rw [if_pos rfl] at hplace
    rw [hplace, hclose] at hquote
    cases hquote
  | false =>
    rw [if_neg Bool.false_ne_true, hclose] at hplace
    cases hplace.1

theorem readMembers_eq_ok {acc members : List (String × Json)} :
    readMembers (fuel + 1) depth first acc c = .ok (members, c') ↔
      (c.skipSpace.peek? = some '\x7d' ∧ members = acc ∧ c' = c.skipSpace.bump) ∨
        ∃ d, MemberStart first c d ∧ readMember fuel depth acc d = .ok (members, c') := by
  constructor
  · intro h
    simp only [readMembers] at h
    split at h
    · cases h
    next ch rest hrest =>
      have hpeek := peek?_of_rest hrest
      split at h
      · next heq =>
        cases h
        exact .inl ⟨heq ▸ hpeek, rfl, rfl⟩
      split at h
      · next hfirst =>
        split at h
        · next heq =>
          refine .inr ⟨c.skipSpace, ⟨?_, heq ▸ hpeek⟩, h⟩
          rw [if_pos hfirst]
        · cases h
      split at h
      · next hfirst hcomma =>
        split at h
        · cases h
        · next hquote =>
          refine .inr ⟨c.skipSpace.bump.skipSpace, ⟨?_, peek?_of_rest hquote⟩, h⟩
          rw [if_neg hfirst]
          exact ⟨hcomma ▸ hpeek, rfl⟩
        · cases h
        · cases h
      · cases h
  · rintro (⟨hpeek, rfl, rfl⟩ | ⟨d, hstart, h⟩)
    · obtain ⟨rest, hrest⟩ := List.head?_eq_some_iff.mp hpeek
      simp [readMembers, hrest]
    · obtain ⟨hplace, hquote⟩ := hstart
      obtain ⟨rest, hrest⟩ := List.head?_eq_some_iff.mp hquote
      cases first with
      | true =>
        rw [if_pos rfl] at hplace
        subst hplace
        simp [readMembers, hrest, h]
      | false =>
        rw [if_neg Bool.false_ne_true] at hplace
        obtain ⟨hcomma, rfl⟩ := hplace
        obtain ⟨more, hmore⟩ := List.head?_eq_some_iff.mp hcomma
        simp [readMembers, hrest, hmore, h]

theorem readMember_eq_ok {acc members : List (String × Json)} :
    readMember (fuel + 1) depth acc c = .ok (members, c') ↔
      ∃ key d v e, Strings.read c.bump = .ok (key, d) ∧ d.skipSpace.peek? = some ':' ∧
        readValue fuel depth d.skipSpace.bump = .ok (v, e) ∧
        readMembers fuel depth false (insertMember key v acc) e = .ok (members, c') := by
  constructor
  · intro h
    simp only [readMember] at h
    obtain ⟨⟨key, d⟩, hkey, h⟩ := exists_of_bind_ok h
    dsimp only at h
    split at h
    · cases h
    · next hcolon =>
      obtain ⟨⟨v, e⟩, hvalue, h⟩ := exists_of_bind_ok h
      exact ⟨key, d, v, e, hkey, peek?_of_rest hcolon, hvalue, h⟩
    · cases h
  · rintro ⟨key, d, v, e, hkey, hcolon, hvalue, h⟩
    obtain ⟨rest, hrest⟩ := List.head?_eq_some_iff.mp hcolon
    simp [readMember, hkey, hrest, hvalue, h, bind, Except.bind]

/-- Where the next item of a list starts. -/
structure ItemStart (first : Bool) (c d : Cursor) : Prop where
  unclosed : c.skipSpace.peek? ≠ some ']'
  place : if first then d = c.skipSpace
    else c.skipSpace.peek? = some ',' ∧ d = c.skipSpace.bump.skipSpace
  item : ∃ ch, d.peek? = some ch ∧ ch ≠ ']'

theorem ItemStart.length_le {d : Cursor} (h : ItemStart first c d) :
    d.rest.length ≤ c.rest.length := by
  have hplace := h.place
  have hspace := length_skipSpace c
  split at hplace
  · rw [hplace]
    exact hspace
  · have := length_bump c.skipSpace
    have := length_skipSpace c.skipSpace.bump
    rw [hplace.2]
    omega

theorem readItems_eq_ok {acc items : List Json} :
    readItems (fuel + 1) depth first acc c = .ok (items, c') ↔
      (c.skipSpace.peek? = some ']' ∧ items = acc.reverse ∧ c' = c.skipSpace.bump) ∨
        ∃ d v e, ItemStart first c d ∧ readValue fuel depth d = .ok (v, e) ∧
          readItems fuel depth false (v :: acc) e = .ok (items, c') := by
  constructor
  · intro h
    simp only [readItems] at h
    split at h
    · cases h
    next ch rest hrest =>
      have hpeek := peek?_of_rest hrest
      split at h
      · next heq =>
        cases h
        exact .inl ⟨heq ▸ hpeek, rfl, rfl⟩
      next hopen =>
      have hopen' : c.skipSpace.peek? ≠ some ']' := by
        rw [hpeek]
        exact fun heq => hopen (Option.some.inj heq)
      split at h
      · next hfirst =>
        obtain ⟨⟨v, e⟩, hvalue, h⟩ := exists_of_bind_ok h
        refine .inr ⟨c.skipSpace, v, e, ⟨hopen', ?_, ch, hpeek, hopen⟩, hvalue, h⟩
        rw [if_pos hfirst]
      split at h
      · next hfirst hcomma =>
        split at h
        · cases h
        · cases h
        · next hend hbracket =>
          obtain ⟨⟨v, e⟩, hvalue, h⟩ := exists_of_bind_ok h
          obtain ⟨ch', rest', hrest'⟩ := List.exists_cons_of_ne_nil hend
          refine .inr ⟨c.skipSpace.bump.skipSpace, v, e, ⟨hopen', ?_, ch', peek?_of_rest hrest',
            fun heq => hbracket rest' (heq ▸ hrest')⟩, hvalue, h⟩
          rw [if_neg hfirst]
          exact ⟨hcomma ▸ hpeek, rfl⟩
      · cases h
  · rintro (⟨hpeek, rfl, rfl⟩ | ⟨d, v, e, hstart, hvalue, h⟩)
    · obtain ⟨rest, hrest⟩ := List.head?_eq_some_iff.mp hpeek
      simp [readItems, hrest]
    · obtain ⟨hopen, hplace, ch, hitem, hch⟩ := hstart
      obtain ⟨rest, hrest⟩ := List.head?_eq_some_iff.mp hitem
      cases first with
      | true =>
        rw [if_pos rfl] at hplace
        subst hplace
        simp [readItems, hrest, hch, hvalue, h, bind, Except.bind]
      | false =>
        rw [if_neg Bool.false_ne_true] at hplace
        obtain ⟨hcomma, rfl⟩ := hplace
        obtain ⟨more, hmore⟩ := List.head?_eq_some_iff.mp hcomma
        simp [readItems, hrest, hmore, hch, hvalue, h, bind, Except.bind]

/-- A value that is neither a list nor an object takes no further step: fuel and depth do not matter
to it. -/
theorem readValue_scalar (hlist : c.skipSpace.peek? ≠ some '[')
    (hobject : c.skipSpace.peek? ≠ some '\x7b') :
    readValue (fuel + 1) depth c = readValue 1 0 c := by
  unfold readValue
  dsimp only
  cases hrest : c.skipSpace.rest with
  | nil => rfl
  | cons ch rest =>
    have hpeek := peek?_of_rest hrest
    have hlist' : ch ≠ '[' := fun heq => hlist (heq ▸ hpeek)
    have hobject' : ch ≠ '\x7b' := fun heq => hobject (heq ▸ hpeek)
    simp only [if_neg hlist', if_neg hobject']

theorem length_readValue_scalar {v : Json} (h : readValue 1 0 c = .ok (v, c')) :
    c'.rest.length < c.rest.length := by
  have hspace := length_skipSpace c
  unfold readValue at h
  dsimp only at h
  split at h
  · cases h
  next ch rest hrest =>
    have hbump := length_bump_of_peek? (peek?_of_rest hrest)
    split at h
    · obtain ⟨c₁, hword, h⟩ := exists_of_bind_ok h
      cases h
      have := length_word hword
      simp only [List.length_cons] at this
      omega
    split at h
    · obtain ⟨c₁, hword, h⟩ := exists_of_bind_ok h
      cases h
      have := length_word hword
      simp only [List.length_cons] at this
      omega
    split at h
    · obtain ⟨c₁, hword, h⟩ := exists_of_bind_ok h
      cases h
      have := length_word hword
      simp only [List.length_cons] at this
      omega
    split at h
    · obtain ⟨⟨x, c₁⟩, hread, h⟩ := exists_of_bind_ok h
      cases h
      exact Nat.lt_of_lt_of_le (Numeral.length_read hread) hspace
    split at h
    · obtain ⟨⟨s, c₁⟩, hread, h⟩ := exists_of_bind_ok h
      cases h
      exact Nat.lt_trans (Strings.length_read hread) (Nat.lt_of_lt_of_le hbump hspace)
    split at h
    · cases h
    split at h
    · cases h
    · cases h

theorem readValue_list_eq_ok {v : Json} (hlist : c.skipSpace.peek? = some '[') :
    readValue (fuel + 1) depth c = .ok (v, c') ↔
      ∃ d items, depth = d + 1 ∧ readItems fuel d true [] c.skipSpace.bump = .ok (items, c') ∧
        v = .arr items := by
  obtain ⟨rest, hrest⟩ := List.head?_eq_some_iff.mp hlist
  have hdigit : Numeral.isDigit '[' = false := by decide
  cases depth with
  | zero => simp [readValue, hrest, hdigit, Cursor.refuse]
  | succ depth =>
    have hstep : readValue (fuel + 1) (depth + 1) c =
        (readItems fuel depth true [] c.skipSpace.bump >>= fun r => .ok (.arr r.1, r.2)) := by
      simp [readValue, hrest, hdigit, pure, Except.pure]
    rw [hstep]
    constructor
    · intro h
      obtain ⟨⟨items, d⟩, hread, h⟩ := exists_of_bind_ok h
      cases h
      exact ⟨depth, items, rfl, hread, rfl⟩
    · rintro ⟨d, items, hdepth, hread, rfl⟩
      obtain rfl := Nat.succ.inj hdepth
      rw [hread]
      rfl

theorem readValue_object_eq_ok {v : Json} (hobject : c.skipSpace.peek? = some '\x7b') :
    readValue (fuel + 1) depth c = .ok (v, c') ↔
      ∃ d members, depth = d + 1 ∧
        readMembers fuel d true [] c.skipSpace.bump = .ok (members, c') ∧ v = .obj members := by
  obtain ⟨rest, hrest⟩ := List.head?_eq_some_iff.mp hobject
  have hdigit : Numeral.isDigit '\x7b' = false := by decide
  cases depth with
  | zero => simp [readValue, hrest, hdigit, Cursor.refuse]
  | succ depth =>
    have hstep : readValue (fuel + 1) (depth + 1) c =
        (readMembers fuel depth true [] c.skipSpace.bump >>= fun r => .ok (.obj r.1, r.2)) := by
      simp [readValue, hrest, hdigit, pure, Except.pure]
    rw [hstep]
    constructor
    · intro h
      obtain ⟨⟨members, d⟩, hread, h⟩ := exists_of_bind_ok h
      cases h
      exact ⟨depth, members, rfl, hread, rfl⟩
    · rintro ⟨d, members, hdepth, hread, rfl⟩
      obtain rfl := Nat.succ.inj hdepth
      rw [hread]
      rfl

/-! ## Fuel -/

/-- What the readers yield with so much fuel shortens the text, and they yield the same with any
fuel beyond twice its length. -/
structure Settled (fuel : Nat) : Prop where
  value : ∀ {depth c v c'}, readValue fuel depth c = .ok (v, c') →
    c'.rest.length < c.rest.length ∧
      ∀ {more}, 2 * c.rest.length < more → readValue more depth c = .ok (v, c')
  items : ∀ {depth first acc c vs c'}, readItems fuel depth first acc c = .ok (vs, c') →
    c'.rest.length < c.rest.length ∧
      ∀ {more}, 2 * c.rest.length + 1 < more → readItems more depth first acc c = .ok (vs, c')
  members : ∀ {depth first acc c ms c'}, readMembers fuel depth first acc c = .ok (ms, c') →
    c'.rest.length < c.rest.length ∧
      ∀ {more}, 2 * c.rest.length + 1 < more → readMembers more depth first acc c = .ok (ms, c')
  member : ∀ {depth acc c ms c'}, readMember fuel depth acc c = .ok (ms, c') →
    c'.rest.length < c.rest.length ∧
      ∀ {more}, 2 * c.rest.length < more → readMember more depth acc c = .ok (ms, c')

theorem readValue_settled (ih : Settled fuel) {v : Json}
    (h : readValue (fuel + 1) depth c = .ok (v, c')) :
    c'.rest.length < c.rest.length ∧
      ∀ {more}, 2 * c.rest.length < more → readValue more depth c = .ok (v, c') := by
  have hspace := length_skipSpace c
  by_cases hlist : c.skipSpace.peek? = some '['
  · obtain ⟨d, items, rfl, hitems, rfl⟩ := (readValue_list_eq_ok hlist).mp h
    have hbump := length_bump_of_peek? hlist
    obtain ⟨hshort, hsettled⟩ := ih.items hitems
    refine ⟨by omega, ?_⟩
    intro more hmore
    obtain ⟨more, rfl⟩ : ∃ k, more = k + 1 := ⟨more - 1, by omega⟩
    exact (readValue_list_eq_ok hlist).mpr ⟨d, items, rfl, hsettled (by omega), rfl⟩
  by_cases hobject : c.skipSpace.peek? = some '\x7b'
  · obtain ⟨d, members, rfl, hmembers, rfl⟩ := (readValue_object_eq_ok hobject).mp h
    have hbump := length_bump_of_peek? hobject
    obtain ⟨hshort, hsettled⟩ := ih.members hmembers
    refine ⟨by omega, ?_⟩
    intro more hmore
    obtain ⟨more, rfl⟩ : ∃ k, more = k + 1 := ⟨more - 1, by omega⟩
    exact (readValue_object_eq_ok hobject).mpr ⟨d, members, rfl, hsettled (by omega), rfl⟩
  · rw [readValue_scalar hlist hobject] at h
    refine ⟨length_readValue_scalar h, ?_⟩
    intro more hmore
    obtain ⟨more, rfl⟩ : ∃ k, more = k + 1 := ⟨more - 1, by omega⟩
    rw [readValue_scalar hlist hobject]
    exact h

theorem readItems_settled (ih : Settled fuel) {acc items : List Json}
    (h : readItems (fuel + 1) depth first acc c = .ok (items, c')) :
    c'.rest.length < c.rest.length ∧ ∀ {more}, 2 * c.rest.length + 1 < more →
      readItems more depth first acc c = .ok (items, c') := by
  rcases readItems_eq_ok.mp h with ⟨hpeek, rfl, rfl⟩ | ⟨d, v, e, hstart, hvalue, hitems⟩
  · have hspace := length_skipSpace c
    have hbump := length_bump_of_peek? hpeek
    refine ⟨by omega, ?_⟩
    intro more hmore
    obtain ⟨more, rfl⟩ : ∃ k, more = k + 1 := ⟨more - 1, by omega⟩
    exact readItems_eq_ok.mpr (.inl ⟨hpeek, rfl, rfl⟩)
  · have hplace := hstart.length_le
    obtain ⟨hshort, hsettled⟩ := ih.value hvalue
    obtain ⟨hshort', hsettled'⟩ := ih.items hitems
    refine ⟨by omega, ?_⟩
    intro more hmore
    obtain ⟨more, rfl⟩ : ∃ k, more = k + 1 := ⟨more - 1, by omega⟩
    exact readItems_eq_ok.mpr
      (.inr ⟨d, v, e, hstart, hsettled (by omega), hsettled' (by omega)⟩)

theorem readMembers_settled (ih : Settled fuel) {acc members : List (String × Json)}
    (h : readMembers (fuel + 1) depth first acc c = .ok (members, c')) :
    c'.rest.length < c.rest.length ∧ ∀ {more}, 2 * c.rest.length + 1 < more →
      readMembers more depth first acc c = .ok (members, c') := by
  rcases readMembers_eq_ok.mp h with ⟨hpeek, rfl, rfl⟩ | ⟨d, hstart, hmember⟩
  · have hspace := length_skipSpace c
    have hbump := length_bump_of_peek? hpeek
    refine ⟨by omega, ?_⟩
    intro more hmore
    obtain ⟨more, rfl⟩ : ∃ k, more = k + 1 := ⟨more - 1, by omega⟩
    exact readMembers_eq_ok.mpr (.inl ⟨hpeek, rfl, rfl⟩)
  · have hplace := hstart.length_le
    obtain ⟨hshort, hsettled⟩ := ih.member hmember
    refine ⟨by omega, ?_⟩
    intro more hmore
    obtain ⟨more, rfl⟩ : ∃ k, more = k + 1 := ⟨more - 1, by omega⟩
    exact readMembers_eq_ok.mpr (.inr ⟨d, hstart, hsettled (by omega)⟩)

theorem readMember_settled (ih : Settled fuel) {acc members : List (String × Json)}
    (h : readMember (fuel + 1) depth acc c = .ok (members, c')) :
    c'.rest.length < c.rest.length ∧ ∀ {more}, 2 * c.rest.length < more →
      readMember more depth acc c = .ok (members, c') := by
  obtain ⟨key, d, v, e, hkey, hcolon, hvalue, hmembers⟩ := readMember_eq_ok.mp h
  have hquote := length_bump c
  have hread := Strings.length_read hkey
  have hspace := length_skipSpace d
  have hbump := length_bump_of_peek? hcolon
  obtain ⟨hshort, hsettled⟩ := ih.value hvalue
  obtain ⟨hshort', hsettled'⟩ := ih.members hmembers
  refine ⟨by omega, ?_⟩
  intro more hmore
  obtain ⟨more, rfl⟩ : ∃ k, more = k + 1 := ⟨more - 1, by omega⟩
  exact readMember_eq_ok.mpr
    ⟨key, d, v, e, hkey, hcolon, hsettled (by omega), hsettled' (by omega)⟩

/-- By induction on the fuel: what one reader needs leaves enough for those it calls, since they
have less text before them. -/
theorem settled (fuel : Nat) : Settled fuel := by
  induction fuel with
  | zero =>
    constructor
    · intro depth c v c' h
      simp only [readValue] at h
      cases h
    · intro depth first acc c vs c' h
      simp only [readItems] at h
      cases h
    · intro depth first acc c ms c' h
      simp only [readMembers] at h
      cases h
    · intro depth acc c ms c' h
      simp only [readMember] at h
      cases h
  | succ fuel ih =>
    exact ⟨readValue_settled ih, readItems_settled ih, readMembers_settled ih,
      readMember_settled ih⟩

theorem length_readValue {v : Json} (h : readValue fuel depth c = .ok (v, c')) :
    c'.rest.length < c.rest.length :=
  ((settled fuel).value h).1

/-- A value that can be read at all is read with twice the length of the text. -/
theorem readValue_of_length {v : Json} (h : readValue fuel depth c = .ok (v, c')) {more : Nat}
    (hmore : 2 * c.rest.length < more) : readValue more depth c = .ok (v, c') :=
  ((settled fuel).value h).2 hmore

end EventFeed.Json
