import EventFeed.Proofs.Json.RoundTrip

/-! # Written values are single lines

The compact text of a value holds no character below the space, whatever its strings and keys are
and at whatever depth: where a string has one, an escape stands for it. So no value is written over
more than one line.
-/

namespace EventFeed

/-- No character lies below the space, as those that end a line do. -/
def Unbroken (cs : List Char) : Prop := ∀ c ∈ cs, ' ' ≤ c

instance (cs : List Char) : Decidable (Unbroken cs) :=
  decidable_of_iff (cs.all (' ' ≤ ·)) (by simp [Unbroken])

namespace Unbroken

variable {cs ds : List Char} {c : Char}

theorem nil : Unbroken [] := List.forall_mem_nil _

theorem cons_iff : Unbroken (c :: cs) ↔ ' ' ≤ c ∧ Unbroken cs := List.forall_mem_cons

theorem append_iff : Unbroken (cs ++ ds) ↔ Unbroken cs ∧ Unbroken ds := List.forall_mem_append

theorem cons (hc : ' ' ≤ c) (h : Unbroken cs) : Unbroken (c :: cs) := cons_iff.mpr ⟨hc, h⟩

theorem append (h : Unbroken cs) (h' : Unbroken ds) : Unbroken (cs ++ ds) :=
  append_iff.mpr ⟨h, h'⟩

theorem flatMap {α : Type} {f : α → List Char} {xs : List α} (h : ∀ x ∈ xs, Unbroken (f x)) :
    Unbroken (xs.flatMap f) := by
  intro c hc
  obtain ⟨x, hx, hmem⟩ := List.mem_flatMap.mp hc
  exact h x hx c hmem

theorem of_subset (h : Unbroken ds) (hsub : cs ⊆ ds) : Unbroken cs := fun c hc => h c (hsub hc)

theorem replicate (n : Nat) (hc : ' ' ≤ c) : Unbroken (List.replicate n c) := by
  intro d hd
  rw [List.eq_of_mem_replicate hd]
  exact hc

theorem digits (n : Nat) : Unbroken (Nat.toDigits 10 n) := by
  intro c hc
  have hdigit := Nat.isDigit_of_mem_toDigits (by decide) (by decide) hc
  simp only [Char.isDigit, Bool.and_eq_true, decide_eq_true_eq] at hdigit
  exact Char.le_trans (by decide) hdigit.1

end Unbroken

/-! ## Numbers -/

namespace DecimalStyle

variable {digits : List Char}

theorem layOut_unbroken (h : Unbroken digits) (leading : Int) :
    Unbroken (layOut digits leading) := by
  unfold layOut
  split
  · split
    · exact (h.append (.replicate _ (by decide))).append (by decide)
    · exact ((h.of_subset (List.take_subset ..)).append (by decide)).append
        (h.of_subset (List.drop_subset ..))
  · exact .append (.append (by decide) (.replicate _ (by decide))) h

theorem withExponent_unbroken (h : Unbroken digits) (leading : Int) :
    Unbroken (withExponent digits leading) := by
  unfold withExponent
  refine .append (.append ?_ (.cons (by decide) (.cons ?_ .nil))) (.digits _)
  · match digits, h with
    | [], _ => decide
    | [_], h => exact h
    | d :: e :: rest, h => exact .cons (h d List.mem_cons_self) (.cons (by decide)
        (h.of_subset (List.subset_cons_self ..)))
  · split <;> decide

theorem render_unbroken (style : DecimalStyle) (x : Binary64) : Unbroken (style.render x) := by
  have hbody : ∀ {b : Bool} {body : List Char}, Unbroken body →
      Unbroken (if b then '-' :: body else body) := by
    intro b body h
    cases b with
    | true => exact .cons (by decide) h
    | false => exact h
  unfold render
  refine hbody ?_
  split
  · exact layOut_unbroken (.digits _) _
  · split
    · exact layOut_unbroken (.digits _) _
    · exact withExponent_unbroken (.digits _) _

end DecimalStyle

namespace Json

theorem renderInt_unbroken (n : Int) : Unbroken (renderInt n) := by
  unfold renderInt
  split
  · exact .cons (by decide) (.digits _)
  · exact .digits _

/-! ## Strings -/

theorem space_le_hexDigit : ∀ n < 16, ' ' ≤ hexDigit n := by decide

/-- A character below the space is written as an escape, which holds none. -/
theorem escapeChar_unbroken (c : Char) : Unbroken (escapeChar c) := by
  by_cases hcontrol : c < ' '
  · have hbound : c.toNat < 32 := hcontrol
    have hhigh := space_le_hexDigit (c.toNat / 16) (by omega)
    have hlow := space_le_hexDigit (c.toNat % 16) (by omega)
    have hunicode : Unbroken (['\\', 'u', '0', '0'] ++
        [hexDigit (c.toNat / 16), hexDigit (c.toNat % 16)]) :=
      .append (by decide) (.cons hhigh (.cons hlow .nil))
    unfold escapeChar
    repeat' split
    all_goals first | exact hunicode | decide
  -- from the space on, only a quote and a backslash are written as escapes
  · have hc : ' ' ≤ c := Char.not_lt.mp hcontrol
    unfold escapeChar
    repeat' split
    all_goals first | exact .cons hc .nil | decide

theorem renderString_unbroken (s : String) : Unbroken (renderString s) :=
  .cons (by decide) (.append (.flatMap fun c _ => escapeChar_unbroken c) (by decide))

/-! ## Values -/

theorem renderItems_unbroken {items : List Json} (h : ∀ v ∈ items, Unbroken (render v)) :
    Unbroken (renderItems items) := by
  cases items with
  | nil => exact .nil
  | cons v rest =>
      obtain ⟨hv, hrest⟩ := List.forall_mem_cons.mp h
      rw [renderItems_cons]
      exact hv.append (.flatMap fun w hw => .cons (by decide) (hrest w hw))

theorem renderMembers_unbroken {members : List (String × Json)}
    (h : ∀ m ∈ members, Unbroken (render m.2)) : Unbroken (renderMembers members) := by
  have hmember : ∀ m ∈ members, Unbroken (renderMember m) := fun m hm =>
    .append (renderString_unbroken m.1) (.cons (by decide) (h m hm))
  cases members with
  | nil => exact .nil
  | cons m rest =>
      obtain ⟨hm, hrest⟩ := List.forall_mem_cons.mp hmember
      rw [renderMembers_cons]
      exact hm.append (.flatMap fun w hw => .cons (by decide) (hrest w hw))

mutual

/-- A written value is a single line. The induction is on the value: a list or an object is one
because what it holds is. -/
theorem render_unbroken : (v : Json) → Unbroken (render v)
  | .null => by decide
  | .bool true => by decide
  | .bool false => by decide
  | .int n => renderInt_unbroken n
  | .real x => DecimalStyle.data.render_unbroken x
  | .str s => renderString_unbroken s
  | .arr items =>
    .cons (by decide) (.append (renderItems_unbroken (items_unbroken items)) (by decide))
  | .obj members =>
    .cons (by decide) (.append (renderMembers_unbroken (members_unbroken members)) (by decide))

theorem items_unbroken : (items : List Json) → ∀ v ∈ items, Unbroken (render v)
  | [] => List.forall_mem_nil _
  | v :: rest => List.forall_mem_cons.mpr ⟨render_unbroken v, items_unbroken rest⟩

theorem members_unbroken : (members : List (String × Json)) → ∀ m ∈ members, Unbroken (render m.2)
  | [] => List.forall_mem_nil _
  | (_, v) :: rest => List.forall_mem_cons.mpr ⟨render_unbroken v, members_unbroken rest⟩

end

end Json

end EventFeed
