import EventFeed.Unicode.Composed
import EventFeed.Unicode.Direction
import EventFeed.Unicode.Mark

/-! # The characters of ASCII in the tables

What a table says of a code point stands in a row that begins at or before it, and next to no row
begins in ASCII. A text of ASCII is in its composed form.
-/

namespace EventFeed.Unicode

/-- Whether a code point belongs to ASCII. -/
abbrev IsAscii (n : Nat) : Prop := n < 0x80

namespace Table

variable {table : Table} {n : Nat} {row : List Nat}

theorem row?_eq_some (h : table.row? n = some row) : row ∈ table.rows ∧ row.headD 0 ≤ n := by
  rw [row?, Array.findRev?_eq_find?_reverse] at h
  constructor
  · have hmem := Array.mem_of_find?_eq_some h
    simpa using hmem
  · simpa using Array.find?_some h

/-! ## Tables that begin beyond ASCII -/

def BeyondAscii (table : Table) : Prop := ∀ row ∈ table.rows, 0x80 ≤ row.headD 0

theorem BeyondAscii.row?_eq_none (h : table.BeyondAscii) (hn : IsAscii n) :
    table.row? n = none := by
  cases hrow : table.row? n with
  | none => rfl
  | some row =>
      obtain ⟨hmem, hle⟩ := row?_eq_some hrow
      have := h row hmem
      omega

theorem BeyondAscii.covers (h : table.BeyondAscii) (hn : IsAscii n) : table.covers n = false := by
  simp [Table.covers, h.row?_eq_none hn]

theorem BeyondAscii.value? (h : table.BeyondAscii) (hn : IsAscii n) : table.value? n = none := by
  simp [Table.value?, h.row?_eq_none hn]

theorem BeyondAscii.expansion? (h : table.BeyondAscii) (hn : IsAscii n) :
    table.expansion? n = none := by
  simp [Table.expansion?, h.row?_eq_none hn]

/-! ## Checking a table line by line -/

/-- Whether every row on every line is as it should be. -/
def LinesHold (good : List Nat → Bool) (lines : List String) : Prop :=
  ∀ line ∈ lines, (readLine [] line.toList).all good = true

variable {good : List Nat → Bool} {lines : List String}

theorem LinesHold.nil : LinesHold good [] := by
  simp [LinesHold]

-- the line is a literal, so that only its characters are evaluated
theorem LinesHold.cons {line : List Char} (h : (readLine [] line).all good = true)
    (hrest : LinesHold good lines) : LinesHold good (String.ofList line :: lines) := by
  intro other hmem
  rcases List.mem_cons.mp hmem with rfl | hmem
  · rw [String.toList_ofList]
    exact h
  · exact hrest other hmem

theorem LinesHold.rows (h : LinesHold good lines) :
    ∀ row ∈ (ofLines lines).rows, good row = true := by
  intro row hrow
  simp only [ofLines, List.mem_toArray, List.mem_flatMap] at hrow
  obtain ⟨line, hline, hrow⟩ := hrow
  exact List.all_eq_true.mp (h line hline) row hrow

theorem LinesHold.beyondAscii (h : LinesHold (fun row => 0x80 ≤ row.headD 0) lines) :
    (ofLines lines).BeyondAscii := by
  intro row hrow
  simpa using h.rows row hrow

end Table

open Table (LinesHold)

/-! ## Marks -/

theorem combiningClasses_beyondAscii : combiningClasses.BeyondAscii := by
  refine LinesHold.beyondAscii ?_
  repeat apply LinesHold.cons (by decide +kernel)
  exact .nil

theorem marks_beyondAscii : marks.BeyondAscii := by
  refine LinesHold.beyondAscii ?_
  repeat apply LinesHold.cons (by decide +kernel)
  exact .nil

variable {c : Char}

theorem combiningClass_of_isAscii (h : IsAscii c.toNat) : combiningClass c = 0 := by
  simp [combiningClass, combiningClasses_beyondAscii.value? h]

theorem isMark_of_isAscii (h : IsAscii c.toNat) : isMark c = false :=
  marks_beyondAscii.covers h

/-! ## The composed form -/

set_option maxRecDepth 4000 in
theorem separated_beyondAscii : separated.BeyondAscii := by
  refine LinesHold.beyondAscii ?_
  repeat apply LinesHold.cons (by decide +kernel)
  exact .nil

set_option maxRecDepth 4000 in
theorem composites_rows : ∀ row ∈ composites.rows,
    (decide (0x80 ≤ row.headD 0) && (row.drop 1).any (0x80 ≤ ·)) = true := by
  refine LinesHold.rows ?_
  repeat apply LinesHold.cons (by decide +kernel)
  exact .nil

theorem composites_beyondAscii : composites.BeyondAscii := by
  intro row hrow
  have h := composites_rows row hrow
  simp only [Bool.and_eq_true, decide_eq_true_eq] at h
  exact h.1

/-- No character is composed of characters of ASCII only. -/
theorem exists_not_isAscii_of_composite {row : List Nat} (hrow : row ∈ composites.rows) :
    ∃ n ∈ row.drop 1, ¬ IsAscii n := by
  have h := composites_rows row hrow
  simp only [Bool.and_eq_true, List.any_eq_true, decide_eq_true_eq] at h
  obtain ⟨n, hn, hle⟩ := h.2
  refine ⟨n, hn, ?_⟩
  omega

-- An equation between functions, as below, does not make the tables be evaluated when it is
-- checked; one at a character would.
theorem decomposeChar_eq : decomposeChar = fun c =>
    ((composites.expansion? c.toNat <|> separated.expansion? c.toNat <|>
      Hangul.decompose? c.toNat).map (List.map Char.ofNat)).getD [c] := by
  delta decomposeChar
  funext c
  dsimp only
  generalize (composites.expansion? c.toNat <|> separated.expansion? c.toNat <|>
    Hangul.decompose? c.toNat) = parts
  cases parts <;> rfl

theorem decomposeChar_of_isAscii (h : IsAscii c.toNat) : decomposeChar c = [c] := by
  have hangul : Hangul.decompose? c.toNat = none := by
    refine if_neg ?_
    unfold Hangul.syllableBase
    omega
  rw [decomposeChar_eq]
  simp [composites_beyondAscii.expansion? h, separated_beyondAscii.expansion? h, hangul]

theorem composites_find?_of_isAscii {m n : Nat} (hm : IsAscii m) (hn : IsAscii n) :
    composites.rows.find? (fun row => row.drop 1 == [m, n]) = none := by
  rw [Array.find?_eq_none]
  intro row hrow heq
  obtain ⟨k, hk, hnot⟩ := exists_not_isAscii_of_composite hrow
  rw [beq_iff_eq.mp heq] at hk
  simp only [List.mem_cons, List.not_mem_nil, or_false] at hk
  rcases hk with rfl | rfl
  · exact hnot hm
  · exact hnot hn

theorem composePair?_of_isAscii {a b : Char} (ha : IsAscii a.toNat) (hb : IsAscii b.toNat) :
    composePair? a b = none := by
  have hangul : Hangul.compose? a.toNat b.toNat = none := by
    unfold Hangul.compose? Hangul.leadingBase Hangul.syllableBase
    rw [if_neg (by omega), if_neg (by omega)]
  rw [composePair?, decomposeChar_of_isAscii ha]
  simp only [List.cons_append, List.nil_append, List.map_cons, List.map_nil]
  rw [composites_find?_of_isAscii ha hb, hangul]
  simp

variable {cs : List Char}

theorem orderMarks_of_isAscii (h : ∀ c ∈ cs, IsAscii c.toNat) : orderMarks [] cs = cs := by
  induction cs with
  | nil => simp [orderMarks]
  | cons c rest ih =>
      simp only [List.forall_mem_cons] at h
      rw [orderMarks, if_pos (combiningClass_of_isAscii h.1), ih h.2]
      simp

theorem decomposed_of_isAscii (h : ∀ c ∈ cs, IsAscii c.toNat) : decomposed cs = cs := by
  have hchars : cs.flatMap decomposeChar = cs := by
    induction cs with
    | nil => simp
    | cons c rest ih =>
        simp only [List.forall_mem_cons] at h
        rw [List.flatMap_cons, decomposeChar_of_isAscii h.1, ih h.2]
        simp
  rw [decomposed, hchars, orderMarks_of_isAscii h]

-- The steps of `compose` are stated here for what is needed of them: its equations in full would
-- have the tables evaluated.

theorem compose_none_cons {c : Char} (hclass : combiningClass c = 0) (rest : List Char) :
    compose none (c :: rest) = compose (some ⟨c, []⟩) rest :=
  if_pos hclass

/-- How composing goes on with a cluster and the next character. -/
def composeNext (k : Cluster) (c : Char) (rest : List Char) : List Char :=
  match if k.blocks c then none else composePair? k.start c with
  | some d => compose (some { k with start := d }) rest
  | none =>
    if combiningClass c = 0 then k.toList ++ compose (some ⟨c, []⟩) rest
    else compose (some { k with marks := c :: k.marks }) rest

theorem compose_some_cons {k : Cluster} {c : Char} (hpair : composePair? k.start c = none)
    (hclass : combiningClass c = 0) (rest : List Char) :
    compose (some k) (c :: rest) = k.toList ++ compose (some ⟨c, []⟩) rest := by
  have hnone : (if k.blocks c then none else composePair? k.start c) = none := by
    rw [hpair, ite_self]
  calc compose (some k) (c :: rest)
      = composeNext k c rest := rfl
    _ = if combiningClass c = 0 then k.toList ++ compose (some ⟨c, []⟩) rest
          else compose (some { k with marks := c :: k.marks }) rest := by rw [composeNext, hnone]
    _ = k.toList ++ compose (some ⟨c, []⟩) rest := if_pos hclass

theorem compose_of_isAscii {start : Char} (hstart : IsAscii start.toNat)
    (h : ∀ c ∈ cs, IsAscii c.toNat) : compose (some ⟨start, []⟩) cs = start :: cs := by
  induction cs generalizing start with
  | nil => rfl
  | cons c rest ih =>
      simp only [List.forall_mem_cons] at h
      rw [compose_some_cons (composePair?_of_isAscii hstart h.1) (combiningClass_of_isAscii h.1),
        ih h.1 h.2]
      rfl

/-- A text of ASCII is in its composed form. -/
theorem composed_of_isAscii (h : ∀ c ∈ cs, IsAscii c.toNat) : composed cs = cs := by
  rw [composed, decomposed_of_isAscii h]
  cases cs with
  | nil => rfl
  | cons c rest =>
      simp only [List.forall_mem_cons] at h
      rw [compose_none_cons (combiningClass_of_isAscii h.1), compose_of_isAscii h.1 h.2]

/-! ## Directions -/

set_option maxRecDepth 4000 in
theorem directions_rows : ∀ row ∈ directions.rows,
    (decide (0x80 ≤ row.headD 0) || (row.drop 1 != [1] && row.drop 1 != [3])) = true := by
  refine LinesHold.rows ?_
  repeat apply LinesHold.cons (by decide +kernel)
  exact .nil

/-- The direction that a row of the table stands for. -/
def Direction.ofRow : Option (List Nat) → Direction
  | some [_, 1] => .rightToLeft
  | some [_, 2] => .europeanNumber
  | some [_, 3] => .arabicNumber
  | some [_, 4] => .neutral
  | some [_, 5] => .nonspacing
  | some [_, 6] => .blank
  | _ => .leftToRight

-- an equation for one character would have the kernel look it up
theorem direction_eq : direction = fun c => .ofRow (directions.row? c.toNat) := by
  delta direction
  funext c
  generalize directions.row? c.toNat = row?
  cases row? <;> rfl

theorem Direction.exists_of_rightToLeft {row? : Option (List Nat)}
    (h : ofRow row? = .rightToLeft) : ∃ n, row? = some [n, 1] := by
  unfold ofRow at h
  split at h <;> simp_all

theorem Direction.exists_of_arabicNumber {row? : Option (List Nat)}
    (h : ofRow row? = .arabicNumber) : ∃ n, row? = some [n, 3] := by
  unfold ofRow at h
  split at h <;> simp_all

/-- No character of ASCII is read from right to left. -/
theorem direction_of_isAscii (h : IsAscii c.toNat) :
    direction c ≠ .rightToLeft ∧ direction c ≠ .arabicNumber := by
  have hrow : ∀ row, directions.row? c.toNat = some row → row.drop 1 ≠ [1] ∧ row.drop 1 ≠ [3] := by
    intro row hrow
    obtain ⟨hmem, hle⟩ := Table.row?_eq_some hrow
    have hgood := directions_rows row hmem
    simp only [Bool.or_eq_true, decide_eq_true_eq, Bool.and_eq_true, bne_iff_ne] at hgood
    exact hgood.resolve_left (by omega)
  rw [direction_eq]
  constructor
  · intro hdirection
    obtain ⟨n, hn⟩ := Direction.exists_of_rightToLeft hdirection
    exact (hrow _ hn).1 rfl
  · intro hdirection
    obtain ⟨n, hn⟩ := Direction.exists_of_arabicNumber hdirection
    exact (hrow _ hn).2 rfl

end EventFeed.Unicode
