import EventFeed.Proofs.Json.Numbers
import EventFeed.Text.Blank
import EventFeed.Text.Integer

/-! # Texts that denote numbers

A text denotes a number when it consists of decimal digits, perhaps with a plus sign in front, and
of white space around them. Exactly these texts are read, as long as the number is not too large.
-/

namespace EventFeed.Text

/-- Digits, with a sign or without, and their number. -/
structure Numerals (cs : List Char) (n : Nat) : Prop where
  shape : ∃ sign digits, cs = sign ++ digits ∧ (sign = [] ∨ sign = ['+']) ∧ digits ≠ [] ∧
    (∀ c ∈ digits, c.isDigit = true) ∧ Nat.ofDigitChars 10 digits 0 = n

/-- The number of a text, with white space at its ends. -/
def Denotes (s : String) (n : Nat) : Prop :=
  ∃ front core back, s.toList = front ++ core ++ back ∧
    (∀ c ∈ front, isBlank c = true) ∧ (∀ c ∈ back, isBlank c = true) ∧ Numerals core n

/-! ## White space -/

theorem exists_trimChars (cs : List Char) :
    ∃ front back, cs = front ++ trimChars cs ++ back ∧
      (∀ c ∈ front, isBlank c = true) ∧ ∀ c ∈ back, isBlank c = true := by
  have hfront := List.takeWhile_append_dropWhile (p := isBlank) (l := cs)
  have hback := List.takeWhile_append_dropWhile (p := isBlank) (l := (cs.dropWhile isBlank).reverse)
  refine ⟨cs.takeWhile isBlank, ((cs.dropWhile isBlank).reverse.takeWhile isBlank).reverse, ?_,
    ?_, ?_⟩
  · rw [trimChars, List.append_assoc, ← List.reverse_append, hback, List.reverse_reverse, hfront]
  · intro c hc
    exact List.all_eq_true.mp List.all_takeWhile c hc
  · intro c hc
    exact List.all_eq_true.mp List.all_takeWhile c (List.mem_reverse.mp hc)

/-- Trimming removes the white space around characters of which none is white space. -/
theorem trimChars_append {front core back : List Char} (hfront : ∀ c ∈ front, isBlank c = true)
    (hcore : ∀ c ∈ core, isBlank c = false) (hback : ∀ c ∈ back, isBlank c = true) :
    trimChars (front ++ core ++ back) = core := by
  have hkeep : ∀ {cs : List Char} (rest : List Char), (∀ c ∈ cs, isBlank c = false) → cs ≠ [] →
      (cs ++ rest).dropWhile isBlank = cs ++ rest := by
    intro cs rest hcs hne
    obtain ⟨c, more, rfl⟩ := List.exists_cons_of_ne_nil hne
    exact List.dropWhile_cons_of_neg (by simp [hcs c List.mem_cons_self])
  rw [trimChars, List.append_assoc, List.dropWhile_append_of_pos hfront]
  by_cases hne : core = []
  · subst hne
    have hdrop : back.dropWhile isBlank = [] := by
      have happend := @List.dropWhile_append_of_pos _ isBlank back [] hback
      simpa using happend
    rw [List.nil_append, hdrop]
    rfl
  · have hreverse : ∀ c ∈ core.reverse, isBlank c = false := fun c hc =>
      hcore c (List.mem_reverse.mp hc)
    have hblank : ∀ c ∈ back.reverse, isBlank c = true := fun c hc =>
      hback c (List.mem_reverse.mp hc)
    have hlast := hkeep [] hreverse (by simpa using hne)
    rw [List.append_nil] at hlast
    rw [hkeep _ hcore hne, List.reverse_append, List.dropWhile_append_of_pos hblank, hlast,
      List.reverse_reverse]

theorem not_isBlank_of_isDigit {c : Char} (h : c.isDigit = true) : isBlank c = false := by
  have hrange : 48 ≤ c.toNat ∧ c.toNat ≤ 57 := by
    simpa [Char.isDigit, UInt32.le_iff_toNat_le] using h
  simp only [isBlank, Bool.or_eq_false_iff, Bool.and_eq_false_iff, decide_eq_false_iff_not,
    beq_eq_false_iff_ne]
  omega

theorem Numerals.not_isBlank {cs : List Char} {n : Nat} (h : Numerals cs n) :
    ∀ c ∈ cs, isBlank c = false := by
  obtain ⟨sign, digits, rfl, hsign, -, hdigits, -⟩ := h.shape
  intro c hc
  rcases List.mem_append.mp hc with hc | hc
  · rcases hsign with rfl | rfl
    · cases hc
    · rw [List.mem_singleton.mp hc]
      decide
  · exact not_isBlank_of_isDigit (hdigits c hc)

/-! ## Digits -/

theorem isDigit_iff {c : Char} : c.isDigit = true ↔ '0' ≤ c ∧ c ≤ '9' := by
  simp [Char.isDigit, Char.le_def]

theorem appendDigits_eq_ok {limit n m : Nat} {cs : List Char} (hn : n < limit) :
    appendDigits limit n cs = .ok m ↔
      (∀ c ∈ cs, c.isDigit = true) ∧ Nat.ofDigitChars 10 cs n = m ∧ m < limit := by
  induction cs generalizing n with
  | nil =>
    simp only [appendDigits, Except.ok.injEq, Nat.ofDigitChars_nil]
    constructor
    · rintro rfl
      exact ⟨by simp, rfl, hn⟩
    · rintro ⟨-, rfl, -⟩
      rfl
  | cons c rest ih =>
    rw [appendDigits, Nat.ofDigitChars_cons, List.forall_mem_cons]
    by_cases hdigit : '0' ≤ c ∧ c ≤ '9'
    · rw [if_pos hdigit]
      have hstep : n * 10 + (c.toNat - '0'.toNat) = 10 * n + (c.toNat - '0'.toNat) := by omega
      dsimp only
      rw [hstep]
      by_cases hlt : 10 * n + (c.toNat - '0'.toNat) < limit
      · rw [if_pos hlt, ih hlt]
        constructor
        · rintro ⟨hrest, hm⟩
          exact ⟨⟨isDigit_iff.mpr hdigit, hrest⟩, hm⟩
        · rintro ⟨⟨-, hrest⟩, hm⟩
          exact ⟨hrest, hm⟩
      · rw [if_neg hlt]
        constructor
        · intro h
          cases h
        · rintro ⟨-, rfl, hm⟩
          -- Further digits make no number smaller.
          have := Json.Numeral.le_ofDigitChars rest (10 * n + (c.toNat - '0'.toNat))
          omega
    · rw [if_neg hdigit]
      constructor
      · intro h
        cases h
      · rintro ⟨⟨hc, -⟩, -⟩
        exact absurd (isDigit_iff.mp hc) hdigit

theorem parseUnsigned_eq_ok {limit n : Nat} {s : String} (hlimit : 0 < limit) :
    parseUnsigned limit s = .ok n ↔ Numerals s.toList n ∧ n < limit := by
  unfold parseUnsigned
  constructor
  · intro h
    split at h
    · cases h
    · cases h
    · next digits hne hlist =>
      obtain ⟨hdigits, hn, hlt⟩ := (appendDigits_eq_ok hlimit).mp h
      exact ⟨⟨['+'], digits, hlist, .inr rfl, hne, hdigits, hn⟩, hlt⟩
    · next hne _ _ =>
      obtain ⟨hdigits, hn, hlt⟩ := (appendDigits_eq_ok hlimit).mp h
      exact ⟨⟨[], s.toList, rfl, .inl rfl, hne, hdigits, hn⟩, hlt⟩
  · rintro ⟨⟨sign, digits, hlist, hsign, hne, hdigits, hn⟩, hlt⟩
    have happend := (appendDigits_eq_ok hlimit).mpr ⟨hdigits, hn, hlt⟩
    obtain ⟨c, rest, rfl⟩ := List.exists_cons_of_ne_nil hne
    rw [hlist]
    rcases hsign with rfl | rfl
    · have hc : c ≠ '+' := by
        rintro rfl
        exact absurd (hdigits '+' List.mem_cons_self) (by decide)
      split
      · next heq => cases heq
      · next heq =>
        cases heq
        exact absurd rfl hc
      · next heq =>
        cases heq
        exact absurd rfl hc
      · exact happend
    · exact happend

/-- What is read from a trimmed text is the number that the text denotes. -/
theorem parseUnsigned_trim_eq_ok {limit n : Nat} {s : String} (hlimit : 0 < limit) :
    parseUnsigned limit (trim s) = .ok n ↔ Denotes s n ∧ n < limit := by
  rw [parseUnsigned_eq_ok hlimit, trim, String.toList_ofList]
  refine and_congr_left fun _ => ?_
  constructor
  · intro h
    obtain ⟨front, back, hlist, hfront, hback⟩ := exists_trimChars s.toList
    exact ⟨front, trimChars s.toList, back, hlist, hfront, hback, h⟩
  · rintro ⟨front, core, back, hlist, hfront, hback, h⟩
    rw [hlist, trimChars_append hfront h.not_isBlank hback]
    exact h

/-- A text denotes one number at most. -/
theorem Denotes.unique {s : String} {n m : Nat} (hn : Denotes s n) (hm : Denotes s m) : n = m := by
  have hlimit : 0 < max n m + 1 := Nat.succ_pos _
  have hread := (parseUnsigned_trim_eq_ok hlimit).mpr ⟨hn, by omega⟩
  have hread' := (parseUnsigned_trim_eq_ok hlimit).mpr ⟨hm, by omega⟩
  exact Except.ok.inj (hread.symm.trans hread')

end EventFeed.Text
