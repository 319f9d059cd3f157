import EventFeed.Proofs.Json.Strings
import EventFeed.Json.Numeral

/-! # Written integers are read back

An integer that text can denote is written with decimal digits and read back from them. Conversely,
every integer that is read lies in the range of 64 bits: what does not fit becomes binary floating
point.
-/

namespace EventFeed.Json

/-- What follows a written value inside a list or an object. -/
def Delimited (rest : List Char) : Prop :=
  ∃ c more, rest = c :: more ∧ (c = ',' ∨ c = ']' ∨ c = '\x7d')

theorem delimited_comma (rest : List Char) : Delimited (',' :: rest) := ⟨_, _, rfl, .inl rfl⟩

theorem delimited_bracket (rest : List Char) : Delimited (']' :: rest) :=
  ⟨_, _, rfl, .inr (.inl rfl)⟩

theorem delimited_brace (rest : List Char) : Delimited ('\x7d' :: rest) :=
  ⟨_, _, rfl, .inr (.inr rfl)⟩

namespace Numeral

theorem isDigit_of_mem_toDigits {n : Nat} {c : Char} (h : c ∈ Nat.toDigits 10 n) :
    isDigit c = true :=
  Nat.isDigit_of_mem_toDigits (by decide) (by decide) h

/-- A number does not go on into the delimiter behind it. -/
theorem peek_of_delimited {rest : List Char} (h : Delimited rest) (p : Position) :
    (∃ c, Cursor.peek? ⟨rest, p⟩ = some c ∧ isDigit c = false) ∧
      Cursor.peek? ⟨rest, p⟩ ≠ some '.' ∧ isExponentMark ⟨rest, p⟩ = false := by
  obtain ⟨c, more, rfl, rfl | rfl | rfl⟩ := h <;>
    exact ⟨⟨_, rfl, by decide⟩, by simp [Cursor.peek?], by simp [isExponentMark, Cursor.peek?]⟩

/-! ## Digits -/

/-- Further digits make no number smaller. -/
theorem le_ofDigitChars (cs : List Char) (n : Nat) : n ≤ Nat.ofDigitChars 10 cs n := by
  induction cs generalizing n with
  | nil => exact Nat.le_refl n
  | cons c cs ih =>
    rw [Nat.ofDigitChars_cons]
    have := ih (10 * n + (c.toNat - '0'.toNat))
    omega

/-- Digits whose number fits 64 bits are all appended. -/
theorem absorb_of_fits (cs : List Char) (n : Nat)
    (h : Nat.ofDigitChars 10 cs n ≤ maxSignificand) :
    absorb n cs = (Nat.ofDigitChars 10 cs n, cs.length, []) := by
  induction cs generalizing n with
  | nil => rfl
  | cons c cs ih =>
    rw [Nat.ofDigitChars_cons] at h ⊢
    have hstep : n * 10 + digit c = 10 * n + (c.toNat - '0'.toNat) := by
      rw [digit, Nat.mul_comm]
    have hfits : n * 10 + digit c ≤ maxSignificand := by
      have := le_ofDigitChars cs (10 * n + (c.toNat - '0'.toNat))
      omega
    rw [absorb, if_pos hfits, hstep, ih _ h]
    rfl

/-- What has been appended fits 64 bits. -/
theorem absorb_le (cs : List Char) {n : Nat} (h : n ≤ maxSignificand) :
    (absorb n cs).1 ≤ maxSignificand := by
  induction cs generalizing n with
  | nil => exact h
  | cons c cs ih =>
    unfold absorb
    split
    · next hfits => exact ih hfits
    · exact h

/-- The digits of a positive number do not start with a zero. -/
theorem head_toDigits {n : Nat} (h : 0 < n) :
    ∃ c cs, Nat.toDigits 10 n = c :: cs ∧ c ≠ '0' := by
  induction n using Nat.strongRecOn with
  | ind n ih =>
    by_cases hsmall : n < 10
    · refine ⟨n.digitChar, [], Nat.toDigits_of_lt_base hsmall, ?_⟩
      have hdigits : ∀ m < 10, 0 < m → m.digitChar ≠ '0' := by decide
      exact hdigits n hsmall h
    · obtain ⟨c, cs, heq, hc⟩ := ih (n / 10) (by omega) (by omega)
      refine ⟨c, cs ++ [(n % 10).digitChar], ?_, hc⟩
      rw [Nat.toDigits_of_base_le (by decide) (by omega), heq]
      rfl

theorem takeWhile_digits (n : Nat) {rest : List Char} (h : Delimited rest) :
    (Nat.toDigits 10 n ++ rest).takeWhile isDigit = Nat.toDigits 10 n := by
  rw [List.takeWhile_append_of_pos fun c hc => isDigit_of_mem_toDigits hc]
  obtain ⟨c, more, rfl, rfl | rfl | rfl⟩ := h <;> simp [isDigit]

theorem dropWhile_digits (n : Nat) {rest : List Char} (h : Delimited rest) :
    (Nat.toDigits 10 n ++ rest).dropWhile isDigit = rest := by
  rw [List.dropWhile_append_of_pos fun c hc => isDigit_of_mem_toDigits hc]
  obtain ⟨c, more, rfl, rfl | rfl | rfl⟩ := h <;> simp [isDigit]

/-! ## Reading what was written -/

theorem readRest_of_delimited {rest : List Char} (h : Delimited rest) (p : Position)
    (negative : Bool) (n : Nat) :
    readRest ⟨rest, p⟩ negative n 0 = .ok (ofSignificand negative n, ⟨rest, p⟩) := by
  obtain ⟨-, hpoint, hmark⟩ := peek_of_delimited h p
  simp [readRest, hpoint, hmark]

/-- The digits of a number that fits 64 bits are read as that number. -/
theorem readDigits_toDigits {n : Nat} (hn : n ≤ maxSignificand) (negative : Bool)
    {rest : List Char} (h : Delimited rest) (p : Position) :
    Reads (readDigits ⟨Nat.toDigits 10 n ++ rest, p⟩ negative) (ofSignificand negative n) rest := by
  rcases Nat.eq_zero_or_pos n with rfl | hpos
  · -- A zero stands alone: reading it looks only at the character behind it.
    obtain ⟨⟨c, hpeek, hc⟩, -, -⟩ := peek_of_delimited h (p.after '0')
    refine ⟨p.after '0', ?_⟩
    simp [readDigits, Cursor.bump, hpeek, hc, readRest_of_delimited h]
  · obtain ⟨c, cs, hdigits, hzero⟩ := head_toDigits hpos
    have hc : isDigit c = true := isDigit_of_mem_toDigits (n := n) (by simp [hdigits])
    have hsum : absorb 0 (Nat.toDigits 10 n) = (n, (Nat.toDigits 10 n).length, []) := by
      have := absorb_of_fits (Nat.toDigits 10 n) 0
      rw [Nat.ofDigitChars_ten_toDigits] at this
      exact this hn
    have htake := takeWhile_digits n h
    have hdrop := dropWhile_digits n h
    rw [hdigits] at hsum htake hdrop ⊢
    have hafter : (Cursor.skipWhile isDigit ⟨c :: cs ++ rest, p⟩).rest = rest :=
      (Cursor.skipWhile_rest isDigit _).trans hdrop
    obtain ⟨q, hafter⟩ := Cursor.exists_of_rest hafter
    refine ⟨q, ?_⟩
    rw [List.cons_append] at htake hafter ⊢
    simp only [readDigits, if_neg hzero, hc, if_true, digits, htake, hafter, hsum,
      List.length_nil, readRest_of_delimited h]

/-- A written integer is read back. -/
theorem read_renderInt {n : Int} (hlow : minInt ≤ n) (hhigh : n ≤ maxInt) {rest : List Char}
    (h : Delimited rest) (p : Position) :
    Reads (read ⟨renderInt n ++ rest, p⟩) (.int n) rest := by
  simp only [minInt, maxInt] at hlow hhigh
  have hn : n.natAbs ≤ maxSignificand := by simp only [maxSignificand]; omega
  by_cases hneg : n < 0
  · have hvalue : ofSignificand true n.natAbs = .int n := by
      have hzero : ¬ (n.natAbs = 0 ∨ n.natAbs > 2 ^ 63) := by omega
      have hint : -(n.natAbs : Int) = n := by omega
      rw [ofSignificand, if_pos rfl, if_neg hzero, hint]
    obtain ⟨q, hread⟩ := readDigits_toDigits hn true h (p.after '-')
    refine ⟨q, ?_⟩
    rw [renderInt, if_pos hneg, ← hvalue]
    exact hread
  · have hvalue : ofSignificand false n.natAbs = .int n := by
      have hint : (n.natAbs : Int) = n := by omega
      simp [ofSignificand, hint]
    have hsign : Cursor.peek? ⟨Nat.toDigits 10 n.natAbs ++ rest, p⟩ ≠ some '-' := by
      obtain ⟨c, cs, hcons⟩ := List.exists_cons_of_ne_nil (@Nat.toDigits_ne_nil n.natAbs 10)
      have hc : isDigit c = true := isDigit_of_mem_toDigits (n := n.natAbs) (by simp [hcons])
      rw [hcons]
      rintro ⟨rfl⟩
      exact absurd hc (by decide)
    obtain ⟨q, hread⟩ := readDigits_toDigits hn false h p
    refine ⟨q, ?_⟩
    rw [renderInt, if_neg hneg, read, if_neg hsign, ← hvalue]
    exact hread

/-! ## The range of what is read -/

/-- An integer lies in the range that text can denote. -/
def Bounded : Numeral → Prop
  | .int n => minInt ≤ n ∧ n ≤ maxInt
  | .real _ => True

variable {c c' : Cursor} {negative : Bool} {significand : Nat} {x : Numeral}

theorem finish_bounded {exponent : Int}
    (h : finish c negative significand exponent = .ok (x, c')) : x.Bounded := by
  cases hs : scaled? negative significand exponent with
  | none => simp [finish, hs, Cursor.fail] at h
  | some y =>
    simp only [finish, hs, Option.elim_some, Except.ok.injEq, Prod.mk.injEq] at h
    rw [← h.1]
    exact True.intro

theorem readExponent_bounded {exponent : Int}
    (h : readExponent c negative significand exponent = .ok (x, c')) : x.Bounded := by
  unfold readExponent at h
  extract_lets start at h
  split at h
  split at h
  · cases h
  split at h
  · split at h
    · exact finish_bounded h
    · split at h
      · cases h
      · cases h; exact True.intro
  · cases h

theorem readFraction_bounded {exponent : Int}
    (h : readFraction c negative significand exponent = .ok (x, c')) : x.Bounded := by
  simp only [readFraction] at h
  split at h
  · split at h <;> cases h
  split at h
  · exact readExponent_bounded h
  · exact finish_bounded h

theorem ofSignificand_bounded (negative : Bool) {n : Nat} (h : n ≤ maxSignificand) :
    (ofSignificand negative n).Bounded := by
  simp only [maxSignificand] at h
  unfold ofSignificand
  split
  · split
    · exact True.intro
    · simp only [Bounded, minInt, maxInt]; omega
  · simp only [Bounded, minInt, maxInt]; omega

theorem readRest_bounded {dropped : Nat} (hn : significand ≤ maxSignificand)
    (h : readRest c negative significand dropped = .ok (x, c')) : x.Bounded := by
  unfold readRest at h
  split at h
  · exact readFraction_bounded h
  split at h
  · exact readExponent_bounded h
  split at h
  · cases h; exact ofSignificand_bounded negative hn
  · exact finish_bounded h

theorem readDigits_bounded (h : readDigits c negative = .ok (x, c')) : x.Bounded := by
  have hzero : 0 ≤ maxSignificand := Nat.zero_le _
  simp only [readDigits] at h
  split at h
  · cases h
  split at h
  · split at h
    · split at h
      · cases h
      · exact readRest_bounded hzero h
    · exact readRest_bounded hzero h
  split at h
  · exact readRest_bounded (absorb_le _ hzero) h
  · cases h

/-- An integer that was read lies in the range of 64 bits. -/
theorem read_bounded (h : read c = .ok (x, c')) : x.Bounded := by
  unfold read at h
  split at h <;> exact readDigits_bounded h

end Numeral

end EventFeed.Json
