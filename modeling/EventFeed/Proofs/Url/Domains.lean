import EventFeed.Proofs.Basic
import EventFeed.Proofs.Unicode.Ascii
import EventFeed.Url.Host

/-! # Plain domain names

A name in small letters, digits and other characters of ASCII that are allowed stands for itself,
unless one of its labels is in the encoded form.
-/

namespace EventFeed.Url.Domain

open Unicode (IsAscii Table)
open Unicode.Table (LinesHold)

/-! ## Characters that are replaced by themselves -/

theorem ignored_beyondAscii : ignored.BeyondAscii := by
  refine LinesHold.beyondAscii ?_
  repeat apply LinesHold.cons (by decide +kernel)
  exact .nil

set_option maxRecDepth 4000 in
theorem replaced_beyondAscii : replaced.BeyondAscii := by
  refine LinesHold.beyondAscii ?_
  repeat apply LinesHold.cons (by decide +kernel)
  exact .nil

set_option maxRecDepth 4000 in
theorem shifted_rows : ∀ row ∈ shifted.rows,
    (decide (0x80 ≤ row.headD 0) || row == [0x41, 0x5a, 1, 0x61]) = true := by
  refine LinesHold.rows ?_
  repeat apply LinesHold.cons (by decide +kernel)
  exact .nil

/-- What a code point is replaced by, with the row for it in the table of the shifted ranges. -/
def replacementIn (n : Nat) : Option (List Nat) → List Nat
  | some [first, last, step, target] =>
    if n ≤ last ∧ (n - first) % step = 0 then [target + (n - first)]
    else (replaced.expansion? n).getD [n]
  | _ => (replaced.expansion? n).getD [n]

-- an equation for one code point would have the kernel look it up
theorem replacement_eq :
    replacement = fun n => if ignored.covers n then [] else replacementIn n (shifted.row? n) := by
  delta replacement
  funext n
  generalize shifted.row? n = row?
  cases row? <;> rfl

/-- Outside the shifted ranges a code point is looked up among the single replacements. -/
theorem replacementIn_of_lt {n : Nat} {row? : Option (List Nat)}
    (h : ∀ first last step target, row? = some [first, last, step, target] → last < n) :
    replacementIn n row? = (replaced.expansion? n).getD [n] := by
  unfold replacementIn
  split
  next first last step target =>
    have hlast := h first last step target rfl
    rw [if_neg (by omega)]
  next => rfl

/-- The characters of ASCII that stand for themselves in a domain name. -/
def IsPlain (c : Char) : Prop :=
  IsAscii c.toNat ∧ ¬ (0x41 ≤ c.toNat ∧ c.toNat ≤ 0x5a) ∧ isForbidden c = false

instance (c : Char) : Decidable (IsPlain c) := inferInstanceAs (Decidable (_ ∧ _ ∧ _))

variable {c : Char} {cs : List Char}

theorem replacement_of_isPlain (h : IsPlain c) : replacement c.toNat = [c.toNat] := by
  obtain ⟨hascii, hcapital, -⟩ := h
  have hrow : ∀ first last step target,
      shifted.row? c.toNat = some [first, last, step, target] → last < c.toNat := by
    intro first last step target hrow
    obtain ⟨hmem, hle⟩ := Table.row?_eq_some hrow
    have hgood := shifted_rows _ hmem
    simp only [Bool.or_eq_true, decide_eq_true_eq, beq_iff_eq] at hgood
    have heq := hgood.resolve_left (by omega)
    simp only [List.cons.injEq, List.headD_cons] at heq hle
    omega
  rw [replacement_eq]
  simp [ignored_beyondAscii.covers hascii, replacementIn_of_lt hrow,
    replaced_beyondAscii.expansion? hascii]

theorem mapped_of_isPlain (h : ∀ c ∈ cs, IsPlain c) : mapped cs = cs := by
  unfold mapped
  induction cs with
  | nil => rfl
  | cons c rest ih =>
      simp only [List.forall_mem_cons] at h
      rw [List.flatMap_cons, replacement_of_isPlain h.1, ih h.2]
      simp

/-! ## Labels -/

theorem isRightToLeft_of_isAscii (h : IsAscii c.toNat) : isRightToLeft c = false := by
  obtain ⟨hright, harabic⟩ := Unicode.direction_of_isAscii h
  simp [isRightToLeft, hright, harabic]

theorem joinersAllowed_of_isAscii (before : List Char) (h : ∀ c ∈ cs, IsAscii c.toNat) :
    joinersAllowed before cs = true := by
  induction cs generalizing before with
  | nil => rfl
  | cons c rest ih =>
      simp only [List.forall_mem_cons] at h
      have hother : ∀ d : Char, 0x80 ≤ d.toNat → (c == d) = false := by
        intro d hd
        apply beq_false_of_ne
        rintro rfl
        have := h.1
        omega
      rw [joinersAllowed, hother '\u200c' (by decide), hother '\u200d' (by decide)]
      exact ih _ h.2

theorem wellFormed_of_isPlain (h : ∀ c ∈ cs, IsPlain c) : wellFormed cs = true := by
  have hvalid : cs.all isValid = true := by
    rw [List.all_eq_true]
    intro c hc
    obtain ⟨hascii, -, hallowed⟩ := h c hc
    rw [isValid, if_pos hascii, hallowed]
    rfl
  have hmark : (cs.head?.map Unicode.isMark).getD false = false := by
    cases cs with
    | nil => rfl
    | cons c rest =>
        rw [List.head?_cons, Option.map_some, Option.getD_some]
        exact Unicode.isMark_of_isAscii (h c List.mem_cons_self).1
  rw [wellFormed, hvalid, hmark, joinersAllowed_of_isAscii [] (fun c hc => (h c hc).1)]
  rfl

theorem read?_of_isPlain (h : ∀ c ∈ cs, IsPlain c) (hmark : encodedMark.isPrefixOf cs = false) :
    Label.read? cs = some ⟨cs, cs⟩ := by
  have hascii : cs.all isAscii = true := by
    rw [List.all_eq_true]
    intro c hc
    exact decide_eq_true (h c hc).1
  have hallowed : cs.any isForbidden = false := by
    rw [List.any_eq_false]
    intro c hc
    simp [(h c hc).2.2]
  rw [Label.read?, hmark, hascii, if_neg Bool.false_ne_true, if_pos rfl, Option.bind_eq_bind,
    Option.bind_some]
  dsimp only
  rw [wellFormed_of_isPlain h, hallowed]
  rfl

/-! ## Names -/

theorem mem_of_mem_splitOn {isSeparator : Char → Bool} {part : List Char}
    (h : part ∈ splitOn isSeparator cs) : ∀ c ∈ part, c ∈ cs := by
  induction cs generalizing part with
  | nil =>
      simp only [splitOn, List.mem_singleton] at h
      simp [h]
  | cons d rest ih =>
      intro c hc
      rw [splitOn] at h
      split at h
      · rcases List.mem_cons.mp h with rfl | h
        · simp at hc
        · exact List.mem_cons_of_mem _ (ih h c hc)
      · split at h
        next heq =>
          rw [List.mem_singleton.mp h, List.mem_singleton] at hc
          simp [hc]
        next first parts heq =>
          rcases List.mem_cons.mp h with rfl | h
          · rcases List.mem_cons.mp hc with rfl | hc
            · exact List.mem_cons_self
            · exact List.mem_cons_of_mem _ (ih (heq ▸ List.mem_cons_self) c hc)
          · exact List.mem_cons_of_mem _ (ih (heq ▸ List.mem_cons_of_mem _ h) c hc)

theorem splitOn_ne_nil (isSeparator : Char → Bool) (cs : List Char) :
    splitOn isSeparator cs ≠ [] := by
  cases cs with
  | nil => simp [splitOn]
  | cons c rest =>
      rw [splitOn]
      split
      · simp
      · split <;> simp

/-- What a separator divides is put together again by it. -/
theorem intercalate_splitOn (separator : Char) (cs : List Char) :
    List.intercalate [separator] (splitOn (· == separator) cs) = cs := by
  induction cs with
  | nil => rfl
  | cons c rest ih =>
      obtain ⟨part, parts, hparts⟩ := List.exists_cons_of_ne_nil
        (splitOn_ne_nil (· == separator) rest)
      rw [hparts] at ih
      rw [splitOn, hparts]
      split
      next hc =>
        rw [List.intercalate_cons_cons, ih, beq_iff_eq.mp hc]
        rfl
      next =>
        cases parts with
        | nil => simpa [List.intercalate] using ih
        | cons next parts =>
            rw [List.intercalate_cons_cons] at ih ⊢
            simp [← ih]

theorem labels?_of_isPlain (h : ∀ c ∈ cs, IsPlain c)
    (hmark : ∀ part ∈ splitOn (· == '.') cs, encodedMark.isPrefixOf part = false) :
    labels? cs = some ((splitOn (· == '.') cs).map fun part => ⟨part, part⟩) := by
  have hascii : ∀ c ∈ cs, IsAscii c.toNat := fun c hc => (h c hc).1
  have hpart : ∀ part ∈ splitOn (· == '.') cs, ∀ c ∈ part, IsPlain c := by
    intro part hmem c hc
    exact h c (mem_of_mem_splitOn hmem c hc)
  have hread : ∀ parts : List (List Char), (∀ part ∈ parts, Label.read? part = some ⟨part, part⟩) →
      parts.mapM Label.read? = some (parts.map fun part => ⟨part, part⟩) := by
    intro parts
    induction parts with
    | nil => intro _; rfl
    | cons part parts ih =>
        intro hparts
        simp only [List.forall_mem_cons] at hparts
        rw [List.mapM_cons, hparts.1, ih hparts.2]
        rfl
  have hdirection : (splitOn (· == '.') cs).any (·.any isRightToLeft) = false := by
    rw [List.any_eq_false]
    intro part hmem
    rw [Bool.not_eq_true, List.any_eq_false]
    intro c hc
    simp [isRightToLeft_of_isAscii (hpart part hmem c hc).1]
  rw [labels?, mapped_of_isPlain h, Unicode.composed_of_isAscii hascii,
    hread _ (fun part hmem => read?_of_isPlain (hpart part hmem) (hmark part hmem))]
  have htexts (parts : List (List Char)) :
      (parts.map fun part => (⟨part, part⟩ : Label)).map Label.text = parts := by
    simp [Function.comp_def]
  rw [Option.bind_eq_bind, Option.bind_some]
  dsimp only
  rw [htexts, hdirection]
  rfl

theorem toAscii?_of_isPlain (h : ∀ c ∈ cs, IsPlain c)
    (hmark : ∀ part ∈ splitOn (· == '.') cs, encodedMark.isPrefixOf part = false) :
    toAscii? (cs.flatMap String.utf8EncodeChar) = some cs := by
  rw [toAscii?, fromUTF8?_flatMap]
  simp [labels?_of_isPlain h hmark, Function.comp_def, intercalate_splitOn]

end EventFeed.Url.Domain
