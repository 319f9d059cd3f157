import EventFeed.Json.Printer
import EventFeed.Json.Strings

/-! # Written strings are read back

Reading a string undoes its escapes, whatever its characters are and whatever follows it.
-/

namespace EventFeed.Json

/-- Reading succeeds with a result and leaves the given text unread. -/
def Reads (r : Except ReadError (α × Cursor)) (a : α) (rest : List Char) : Prop :=
  ∃ p, r = .ok (a, ⟨rest, p⟩)

namespace Cursor

theorem skipWhile_go_rest (test : Char → Bool) (cs : List Char) (p : Position) :
    (skipWhile.go test cs p).rest = cs.dropWhile test := by
  induction cs generalizing p with
  | nil => rfl
  | cons c cs ih =>
    unfold skipWhile.go
    by_cases hc : test c
    · simp [hc, ih]
    · simp [hc]

@[simp] theorem skipWhile_rest (test : Char → Bool) (c : Cursor) :
    (c.skipWhile test).rest = c.rest.dropWhile test :=
  skipWhile_go_rest test c.rest c.position

/-- Nothing is skipped in front of a character that is not a space. -/
theorem skipSpace_of_not_space {ch : Char} {rest : List Char} {p : Position}
    (h : isSpace ch = false) : skipSpace ⟨ch :: rest, p⟩ = ⟨ch :: rest, p⟩ := by
  simp [skipSpace, skipWhile, skipWhile.go, h]

theorem exists_of_rest {c : Cursor} {rest : List Char} (h : c.rest = rest) :
    ∃ p, c = ⟨rest, p⟩ := by
  subst h
  exact ⟨c.position, rfl⟩

end Cursor

namespace Strings

theorem hexValue?_hexDigit : ∀ n < 16, hexValue? (hexDigit n) = some n := by
  decide

/-- The four digits of the escape of a character below the space. -/
theorem readUnit_control {n : Nat} (h : n < 32) (rest : List Char) (p : Position) :
    Reads (readUnit ⟨'0' :: '0' :: hexDigit (n / 16) :: hexDigit (n % 16) :: rest, p⟩) n rest := by
  have hzero : hexValue? '0' = some 0 := by decide
  have hhigh := hexValue?_hexDigit (n / 16) (by omega)
  have hlow := hexValue?_hexDigit (n % 16) (by omega)
  have hsum : n / 16 * 16 + n % 16 = n := by omega
  simp [readUnit, Reads, hzero, hhigh, hlow, hsum]

theorem readUnicode_control {c : Char} (h : c < ' ') (rest : List Char) (p : Position) :
    Reads (readUnicode
      ⟨'0' :: '0' :: hexDigit (c.toNat / 16) :: hexDigit (c.toNat % 16) :: rest, p⟩) c rest := by
  have hbound : c.toNat < 32 := h
  obtain ⟨q, hunit⟩ := readUnit_control hbound rest p
  have htrailing : isTrailing c.toNat = false := by simp [isTrailing]; omega
  have hleading : isLeading c.toNat = false := by simp [isLeading]; omega
  exact ⟨q, by simp [readUnicode, hunit, htrailing, hleading, bind, Except.bind]⟩

/-- A character comes back from its own escape. -/
theorem readChar_escapeChar (c : Char) (rest : List Char) (p : Position) :
    Reads (readChar ⟨escapeChar c ++ rest, p⟩) (some c) rest := by
  by_cases hquote : c = '"'
  · subst hquote; exact ⟨_, rfl⟩
  by_cases hslash : c = '\\'
  · subst hslash; exact ⟨_, rfl⟩
  by_cases hback : c = '\x08'
  · subst hback; exact ⟨_, rfl⟩
  by_cases hfeed : c = '\x0c'
  · subst hfeed; exact ⟨_, rfl⟩
  by_cases hline : c = '\n'
  · subst hline; exact ⟨_, rfl⟩
  by_cases hreturn : c = '\r'
  · subst hreturn; exact ⟨_, rfl⟩
  by_cases htab : c = '\t'
  · subst htab; exact ⟨_, rfl⟩
  by_cases hcontrol : c < ' '
  · obtain ⟨q, hread⟩ := readUnicode_control hcontrol rest ((p.after '\\').after 'u')
    have hescape : escapeChar c =
        ['\\', 'u', '0', '0', hexDigit (c.toNat / 16), hexDigit (c.toNat % 16)] := by
      simp [escapeChar, hquote, hslash, hback, hfeed, hline, hreturn, htab, hcontrol]
    refine ⟨q, ?_⟩
    simp only [hescape, List.cons_append, List.nil_append, readChar, Cursor.bump, readEscape,
      hread]
    rfl
  · have hescape : escapeChar c = [c] := by
      simp [escapeChar, hquote, hslash, hback, hfeed, hline, hreturn, htab, hcontrol]
    exact ⟨p.after c, by simp [hescape, readChar, hcontrol, Cursor.bump]⟩

theorem length_le_flatMap_escapeChar (cs : List Char) :
    cs.length ≤ (cs.flatMap escapeChar).length := by
  induction cs with
  | nil => simp
  | cons c cs ih =>
    have hpos : 0 < (escapeChar c).length := by
      unfold escapeChar
      repeat' split
      all_goals simp
    simp only [List.flatMap_cons, List.length_append, List.length_cons]
    omega

theorem readChars_escaped (cs acc rest : List Char) (p : Position) {fuel : Nat}
    (hfuel : cs.length < fuel) :
    Reads (readChars fuel acc ⟨cs.flatMap escapeChar ++ '"' :: rest, p⟩) (acc.reverse ++ cs)
      rest := by
  induction cs generalizing acc p fuel with
  | nil =>
    obtain ⟨fuel, rfl⟩ : ∃ k, fuel = k + 1 := ⟨fuel - 1, by simp at hfuel; omega⟩
    exact ⟨p.after '"', by simp [readChars, readChar, Cursor.bump]⟩
  | cons c cs ih =>
    obtain ⟨fuel, rfl⟩ : ∃ k, fuel = k + 1 := ⟨fuel - 1, by simp at hfuel; omega⟩
    obtain ⟨q, hchar⟩ := readChar_escapeChar c (cs.flatMap escapeChar ++ '"' :: rest) p
    obtain ⟨q', hrest⟩ := ih (c :: acc) q (Nat.lt_of_succ_lt_succ hfuel)
    refine ⟨q', ?_⟩
    simp only [List.flatMap_cons, List.append_assoc, readChars, hchar, hrest,
      List.reverse_cons, List.singleton_append]

/-- A written string is read back, from behind its opening quote on. -/
theorem read_escaped (s : String) (rest : List Char) (p : Position) :
    Reads (read ⟨s.toList.flatMap escapeChar ++ '"' :: rest, p⟩) s rest := by
  have hfuel : s.toList.length <
      (s.toList.flatMap escapeChar ++ '"' :: rest).length + 1 := by
    have := length_le_flatMap_escapeChar s.toList
    simp only [List.length_append, List.length_cons]
    omega
  obtain ⟨q, hchars⟩ := readChars_escaped s.toList [] rest p hfuel
  refine ⟨q, ?_⟩
  simp only [read, hchars, bind, Except.bind, List.reverse_nil, List.nil_append,
    String.ofList_toList]
  rfl

end Strings

end EventFeed.Json
