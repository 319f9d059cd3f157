import EventFeed.Environment.Lines
import EventFeed.Instances

/-! # Lines of a variable file

When a file ends with a line feed, and its last line is finished there, the lines of what is put
behind it follow as lines of their own.
-/

namespace EventFeed.Environment

/-! ## Bytes -/

theorem toList_loop (bytes : ByteArray) (i : Nat) (read : List UInt8) :
    ByteArray.toList.loop bytes i read = read.reverse ++ bytes.data.toList.drop i := by
  fun_induction ByteArray.toList.loop bytes i read with
  | case1 i read hi ih =>
      have hsize : i < bytes.data.toList.length := hi
      have hget : bytes.get! i = bytes.data.toList[i] := getElem!_pos bytes.data i hi
      rw [ih, List.drop_eq_getElem_cons hsize, hget]
      simp
  | case2 i read hi =>
      have hsize : bytes.data.toList.length ≤ i := Nat.le_of_not_lt hi
      rw [List.drop_eq_nil_of_le hsize, List.append_nil]

theorem toList_append (a b : ByteArray) : (a ++ b).toList = a.toList ++ b.toList := by
  simp [ByteArray.toList, toList_loop]

/-- The bytes are none, or end with a line feed. -/
def EndsLine (bytes : List UInt8) : Prop := ∀ b ∈ bytes.getLast?, b = 10

theorem EndsLine.of_append (first : List UInt8) {second : List UInt8}
    (h : EndsLine (first ++ second)) : EndsLine second := by
  intro c hc
  refine h c ?_
  rw [List.getLast?_append, Option.mem_def.mp hc]
  rfl

theorem eq_nil_of_splitLines {bytes : List UInt8} (h : splitLines bytes = []) : bytes = [] := by
  cases bytes with
  | nil => rfl
  | cons b bytes =>
      rw [splitLines] at h
      split at h
      · cases h
      · split at h <;> cases h

theorem splitLines_append {first : List UInt8} (h : EndsLine first) (second : List UInt8) :
    splitLines (first ++ second) = splitLines first ++ splitLines second := by
  induction first with
  | nil => rfl
  | cons b first ih =>
      have hfirst : EndsLine first := EndsLine.of_append [b] h
      simp only [List.cons_append, splitLines, ih hfirst]
      split
      · rfl
      next hb =>
        cases hlines : splitLines first with
        | nil =>
            obtain rfl := eq_nil_of_splitLines hlines
            exact absurd (h b rfl) hb
        | cons line lines => rfl

/-! ## Lines -/

/-- Lines that are all finished stay what they are, and what follows starts a new line. -/
theorem joinLines_append {q : Quoting} {pending : List Char} {first : List (Option (List Char))}
    {lines : List (List Char)} (hq : q = .complete → pending = [])
    (h : joinLines q pending first = lines.map some) (second : List (Option (List Char))) :
    joinLines q pending (first ++ second) =
      lines.map some ++ joinLines .complete [] second := by
  -- text is pending only where a line has not been finished
  induction first generalizing q pending lines with
  | nil =>
      rw [joinLines] at h
      split at h
      next hcomplete =>
        obtain rfl := List.map_eq_nil_iff.mp h.symm
        rw [hq hcomplete, hcomplete]
        rfl
      next => cases lines <;> cases h
  | cons stretch first ih =>
      cases stretch with
      | none => cases lines <;> cases h
      | some stretch =>
          have hnext : ∀ {line : List Char},
              some line :: joinLines .complete [] first = lines.map some →
                some line :: joinLines .complete [] (first ++ second) =
                  lines.map some ++ joinLines .complete [] second := by
            intro line h
            cases lines with
            | nil => cases h
            | cons _ lines =>
                obtain ⟨hline, hlines⟩ := List.cons.inj h
                rw [ih (fun _ => rfl) hlines, hline]
                rfl
          rw [List.cons_append, joinLines]
          rw [joinLines] at h
          split at h
          next hcomment =>
            rw [if_pos hcomment]
            exact hnext h
          next hcomment =>
            rw [if_neg hcomment]
            split at h
            next => exact hnext h
            next => exact hnext h
            next hopen _ => exact ih (fun hcomplete => (hopen hcomplete).elim) h

/-! ## Files -/

/-- The bytes behind the mark that may stand in front of them. -/
def afterMark (bytes : List UInt8) : List UInt8 :=
  if byteOrderMark.isPrefixOf bytes then bytes.drop byteOrderMark.length else bytes

theorem fileLines_eq (content : ByteArray) :
    fileLines content = joinLines .complete [] ((splitLines (afterMark content.toList)).map
      fun line => (decodeText ⟨line.toArray⟩).map String.toList) := rfl

variable {first second : List UInt8}

theorem EndsLine.afterMark (h : EndsLine first) : EndsLine (afterMark first) := by
  unfold Environment.afterMark
  split
  next =>
    refine EndsLine.of_append (first.take byteOrderMark.length) ?_
    rwa [List.take_append_drop]
  next => exact h

/-- A mark in front of both is a mark in front of the first, since no line ends inside it. -/
theorem afterMark_append (h : EndsLine first)
    (hsecond : byteOrderMark.isPrefixOf second = false) :
    afterMark (first ++ second) = afterMark first ++ second := by
  have hmark : byteOrderMark.isPrefixOf (first ++ second) = byteOrderMark.isPrefixOf first := by
    rw [Bool.eq_iff_iff, List.isPrefixOf_iff_prefix, List.isPrefixOf_iff_prefix]
    refine ⟨fun hboth => ?_, fun hfirst => hfirst.trans (List.prefix_append _ _)⟩
    refine (List.prefix_or_prefix_of_prefix hboth (List.prefix_append _ _)).resolve_right ?_
    intro hinside
    cases hlast : first.getLast? with
    | none =>
        rw [List.getLast?_eq_none_iff.mp hlast, List.nil_append, ← List.isPrefixOf_iff_prefix,
          hsecond] at hboth
        cases hboth
    | some b =>
        have hmem : b ∈ byteOrderMark := hinside.subset (List.mem_of_getLast? hlast)
        rw [h b hlast] at hmem
        exact absurd hmem (by decide)
  unfold afterMark
  rw [hmark]
  split
  next hfirst =>
    have hlength := (List.isPrefixOf_iff_prefix.mp hfirst).length_le
    rw [List.drop_append_of_le_length hlength]
  next => rfl

theorem fileLines_append {first second : ByteArray} {lines : List (List Char)}
    (h : EndsLine first.toList) (hsecond : byteOrderMark.isPrefixOf second.toList = false)
    (hlines : fileLines first = lines.map some) :
    fileLines (first ++ second) = fileLines first ++ fileLines second := by
  have hmark : afterMark second.toList = second.toList := by
    rw [afterMark, if_neg (ne_true_of_eq_false hsecond)]
  rw [fileLines_eq] at hlines
  rw [fileLines_eq (first ++ second), toList_append, afterMark_append h hsecond,
    splitLines_append h.afterMark, List.map_append, joinLines_append (fun _ => rfl) hlines,
    fileLines_eq first, hlines, fileLines_eq second, hmark]

end EventFeed.Environment
