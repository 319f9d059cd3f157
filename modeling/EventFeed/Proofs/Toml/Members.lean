import EventFeed.Proofs.Basic
import EventFeed.Toml.Table

/-! # The members of the table of a file

Every member stands under a name of its own, and the names are in order.
-/

namespace EventFeed.Toml

namespace Members

/-- The members stand in the order of their names, one for each name. -/
def Ascending (ms : Members) : Prop := ms.Pairwise fun m m' => m.1.1 < m'.1.1

variable {ms : Members} {name : String} {spans : Span × Span} {v : Value}

theorem name_of_mem_insert {m : (String × Span × Span) × Value} (h : m ∈ ms.insert name spans v) :
    m.1.1 = name ∨ m ∈ ms := by
  induction ms with
  | nil => exact .inl (by rw [List.mem_singleton.mp h])
  | cons head rest ih =>
      rw [insert] at h
      split at h
      · rcases List.mem_cons.mp h with rfl | h
        · exact .inl rfl
        · exact .inr h
      · split at h
        · rcases List.mem_cons.mp h with rfl | h
          · exact .inl rfl
          · exact .inr (List.mem_cons_of_mem _ h)
        · rcases List.mem_cons.mp h with rfl | h
          · exact .inr List.mem_cons_self
          · exact (ih h).imp_right (List.mem_cons_of_mem _)

theorem Ascending.insert (h : ms.Ascending) (name : String) (spans : Span × Span) (v : Value) :
    (ms.insert name spans v).Ascending := by
  induction ms with
  | nil => exact List.pairwise_singleton _ _
  | cons head rest ih =>
      obtain ⟨hhead, hrest⟩ := List.pairwise_cons.mp h
      rw [Members.insert]
      split
      next hlt =>
        refine List.pairwise_cons.mpr ⟨?_, h⟩
        intro m hm
        rcases List.mem_cons.mp hm with rfl | hm
        · exact hlt
        · exact String.lt_trans hlt (hhead m hm)
      next hlt =>
        split
        next heq =>
          refine List.pairwise_cons.mpr ⟨?_, hrest⟩
          intro m hm
          exact heq ▸ hhead m hm
        next hne =>
          have hgt : head.1.1 < name := by
            by_cases hgt : head.1.1 < name
            · exact hgt
            · exact absurd (String.le_antisymm (String.not_lt.mp hgt) (String.not_lt.mp hlt)) hne
          refine List.pairwise_cons.mpr ⟨?_, ih hrest⟩
          intro m hm
          rcases name_of_mem_insert hm with heq | hm
          · rw [heq]
            exact hgt
          · exact hhead m hm

/-- Nothing else stands under the name of the first member. -/
theorem Ascending.find?_eq_none {m : (String × Span × Span) × Value}
    (h : Ascending (m :: ms)) : ms.find? m.1.1 = none := by
  have hother : List.find? (fun m' => m'.1.1 == m.1.1) ms = none := by
    rw [List.find?_eq_none]
    intro m' hm' heq
    have hlt := (List.pairwise_cons.mp h).1 m' hm'
    rw [beq_iff_eq.mp heq] at hlt
    exact String.lt_irrefl _ hlt
  rw [Members.find?, hother]
  rfl

end Members

/-! ## Statements -/

variable {t t' : Table} {change : Table → Except Flaw Table}

/-- A change of a table, or of one within it, that keeps the order of its members. -/
def Keeps (change : Table → Except Flaw Table) : Prop :=
  ∀ t t', change t = .ok t' → t.members.Ascending → t'.members.Ascending

theorem Keeps.descend {dotted : Bool} (hchange : Keeps change) (path : List (String × Span)) :
    Keeps (descend dotted change path) := by
  intro t t' h ht
  cases path with
  | nil => exact hchange t t' h ht
  | cons part rest =>
      obtain ⟨name, span⟩ := part
      rw [Toml.descend] at h
      dsimp only at h
      split at h
      next =>
        obtain ⟨child, -, h⟩ := exists_of_bind_ok h
        rw [← Except.ok.inj h]
        exact ht.insert _ _ _
      next =>
        split at h
        · cases h
        · split at h
          · cases h
          · obtain ⟨child, -, h⟩ := exists_of_bind_ok h
            rw [← Except.ok.inj h]
            exact ht.insert _ _ _
      next =>
        split at h
        · cases h
        · obtain ⟨child, -, h⟩ := exists_of_bind_ok h
          rw [← Except.ok.inj h]
          exact ht.insert _ _ _
      next => cases h

theorem keeps_define (name : String) (span valueSpan : Span) (v : Value) :
    Keeps (define name span valueSpan v) := by
  intro t t' h ht
  unfold define at h
  split at h
  · cases h
  · rw [← Except.ok.inj h]
    exact ht.insert _ _ _

theorem keeps_assign (names : List (String × Span)) (valueSpan : Span) (v : Value) :
    Keeps (assign names valueSpan v) := by
  intro t t' h ht
  unfold assign at h
  split at h
  · rw [← Except.ok.inj h]
    exact ht
  · refine Keeps.descend ?_ _ t t' h ht
    intro parent parent' h hparent
    dsimp only at h
    split at h
    · cases h
    · exact keeps_define _ _ _ _ parent parent' h hparent

theorem keeps_openTable (name : String) (span header : Span) :
    Keeps (openTable name span header) := by
  intro t t' h ht
  unfold openTable at h
  split at h
  · rw [← Except.ok.inj h]
    exact ht.insert _ _ _
  · rw [← Except.ok.inj h]
    exact ht.insert _ _ _
  · cases h

theorem keeps_openItem (name : String) (span header : Span) :
    Keeps (openItem name span header) := by
  intro t t' h ht
  unfold openItem at h
  split at h
  · rw [← Except.ok.inj h]
    exact ht.insert _ _ _
  · rw [← Except.ok.inj h]
    exact ht.insert _ _ _
  · cases h

theorem enter_ascending {openChild : String → Span → Span → Table → Except Flaw Table}
    (hopen : ∀ name span header, Keeps (openChild name span header)) {path : List KeyPart}
    {span : Span} {current : List (String × Span)}
    (h : enter openChild path span t = .ok (current, t')) (ht : t.members.Ascending) :
    t'.members.Ascending := by
  unfold enter at h
  obtain ⟨names, -, h⟩ := exists_of_bind_ok h
  split at h
  · cases h
    exact ht
  · obtain ⟨root, hroot, h⟩ := exists_of_bind_ok h
    cases h
    exact (hopen _ _ _).descend _ _ _ hroot ht

theorem build_ascending {statements : List Statement} {current : List (String × Span)}
    (h : build statements current t = .ok t') (ht : t.members.Ascending) :
    t'.members.Ascending := by
  induction statements generalizing current t with
  | nil =>
      rw [← Except.ok.inj h]
      exact ht
  | cons statement rest ih =>
      cases statement with
      | header path span =>
          obtain ⟨⟨current, root⟩, henter, h⟩ := exists_of_bind_ok h
          exact ih h (enter_ascending keeps_openTable henter ht)
      | arrayHeader path span =>
          obtain ⟨⟨current, root⟩, henter, h⟩ := exists_of_bind_ok h
          exact ih h (enter_ascending keeps_openItem henter ht)
      | assign path v =>
          obtain ⟨names, -, h⟩ := exists_of_bind_ok h
          obtain ⟨value, -, h⟩ := exists_of_bind_ok h
          obtain ⟨root, hroot, h⟩ := exists_of_bind_ok h
          exact ih h ((keeps_assign _ _ _).descend _ _ _ hroot ht)

theorem parse_ascending {source : String} {ms : Members} (h : parse source = .ok ms) :
    ms.Ascending := by
  obtain ⟨statements, -, h⟩ := exists_of_bind_ok h
  obtain ⟨root, hbuild, h⟩ := exists_of_bind_ok h
  rw [← Except.ok.inj h]
  exact build_ascending hbuild List.Pairwise.nil

end EventFeed.Toml
