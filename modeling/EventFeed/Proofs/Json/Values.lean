import EventFeed.Proofs.Basic
import EventFeed.Proofs.Json.Numbers
import EventFeed.Json.Parser

/-! # The values that text can denote

Whatever reading yields has integers of 64 bits only, the members of each object in the order of
their keys, and no more levels than were open to it.
-/

namespace EventFeed.Json

/-- The members stand in the order of their keys, one for each key. -/
def Ascending (members : List (String × Json)) : Prop :=
  members.Pairwise fun m m' => m.1 < m'.1

/-- A value that can be read where so many levels may still be opened. -/
inductive Fits : Nat → Json → Prop
  | null {depth : Nat} : Fits depth .null
  | bool {depth : Nat} (b : Bool) : Fits depth (.bool b)
  | int {depth : Nat} {n : Int} : minInt ≤ n → n ≤ maxInt → Fits depth (.int n)
  | real {depth : Nat} (x : Binary64) : Fits depth (.real x)
  | str {depth : Nat} (s : String) : Fits depth (.str s)
  | arr {depth : Nat} {items : List Json} :
      (∀ v ∈ items, Fits depth v) → Fits (depth + 1) (.arr items)
  | obj {depth : Nat} {members : List (String × Json)} :
      Ascending members → (∀ m ∈ members, Fits depth m.2) → Fits (depth + 1) (.obj members)

theorem fits_of_bounded {depth : Nat} {x : Numeral} (h : x.Bounded) : Fits depth x.toJson := by
  cases x with
  | int n => exact .int h.1 h.2
  | real x => exact .real x

/-! ## Members -/

theorem mem_insertMember {key : String} {value : Json} {members : List (String × Json)}
    {m : String × Json} (h : m ∈ insertMember key value members) :
    m = (key, value) ∨ m ∈ members := by
  induction members with
  | nil => exact .inl (List.mem_singleton.mp h)
  | cons head rest ih =>
    simp only [insertMember] at h
    split at h
    · simpa using h
    split at h
    · rcases List.mem_cons.mp h with rfl | h
      · exact .inl rfl
      · exact .inr (List.mem_cons_of_mem _ h)
    · rcases List.mem_cons.mp h with rfl | h
      · exact .inr List.mem_cons_self
      · exact (ih h).imp_right (List.mem_cons_of_mem _)

theorem ascending_insertMember (key : String) (value : Json) {members : List (String × Json)}
    (h : Ascending members) : Ascending (insertMember key value members) := by
  induction members with
  | nil => exact List.pairwise_singleton _ _
  | cons head rest ih =>
    obtain ⟨k, v⟩ := head
    obtain ⟨hhead, hrest⟩ := List.pairwise_cons.mp h
    simp only [insertMember]
    split
    · next hlt =>
      refine List.pairwise_cons.mpr ⟨fun m hm => ?_, h⟩
      rcases List.mem_cons.mp hm with rfl | hm
      · exact hlt
      · exact String.lt_trans hlt (hhead m hm)
    split
    · next heq => exact List.pairwise_cons.mpr ⟨fun m hm => heq ▸ hhead m hm, hrest⟩
    · next hlt hne =>
      have hgt : k < key := by
        by_cases hk : k < key
        · exact hk
        · exact absurd (String.le_antisymm (String.not_lt.mp hk) (String.not_lt.mp hlt)) hne
      refine List.pairwise_cons.mpr ⟨fun m hm => ?_, ih hrest⟩
      rcases mem_insertMember hm with rfl | hm
      · exact hgt
      · exact hhead m hm

/-- A member whose key comes after all others goes to the end. -/
theorem insertMember_of_last {key : String} (value : Json) {members : List (String × Json)}
    (h : ∀ m ∈ members, m.1 < key) :
    insertMember key value members = members ++ [(key, value)] := by
  induction members with
  | nil => rfl
  | cons head rest ih =>
    obtain ⟨k, v⟩ := head
    have hk : k < key := h (k, v) List.mem_cons_self
    have hlt : ¬ key < k := fun hlt => String.lt_irrefl _ (String.lt_trans hlt hk)
    have hne : key ≠ k := fun heq => String.lt_irrefl k (heq ▸ hk)
    have hrest := ih fun m hm => h m (List.mem_cons_of_mem _ hm)
    simp only [insertMember, if_neg hlt, if_neg hne, hrest, List.cons_append]

/-- Members that are added in the order of their keys stay as they are. -/
theorem foldl_insertMember_of_ascending (acc members : List (String × Json))
    (h : Ascending (acc ++ members)) :
    members.foldl (fun acc m => insertMember m.1 m.2 acc) acc = acc ++ members := by
  induction members generalizing acc with
  | nil => simp
  | cons m rest ih =>
    have hlast : ∀ m' ∈ acc, m'.1 < m.1 := fun m' hm' =>
      (List.pairwise_append.mp h).2.2 m' hm' m List.mem_cons_self
    rw [List.foldl_cons, insertMember_of_last m.2 hlast, ih]
    · simp
    · simpa using h

/-! ## Reading yields such values -/

/-- The members read so far: in order, and each of a value that fits. -/
structure FitMembers (depth : Nat) (members : List (String × Json)) : Prop where
  ascending : Ascending members
  fits : ∀ m ∈ members, m.2.Fits depth

theorem FitMembers.nil (depth : Nat) : FitMembers depth [] :=
  ⟨List.Pairwise.nil, by simp⟩

theorem FitMembers.insert {depth : Nat} {members : List (String × Json)}
    (h : FitMembers depth members) (key : String) {value : Json} (hvalue : value.Fits depth) :
    FitMembers depth (insertMember key value members) := by
  refine ⟨ascending_insertMember key value h.ascending, fun m hm => ?_⟩
  rcases mem_insertMember hm with rfl | hm
  · exact hvalue
  · exact h.fits m hm

/-- What the four readers yield with so much fuel. -/
structure Sound (fuel : Nat) : Prop where
  value : ∀ {depth c v c'}, readValue fuel depth c = .ok (v, c') → v.Fits depth
  items : ∀ {depth first acc c vs c'}, (∀ v ∈ acc, Fits depth v) →
    readItems fuel depth first acc c = .ok (vs, c') → ∀ v ∈ vs, Fits depth v
  members : ∀ {depth first acc c ms c'}, FitMembers depth acc →
    readMembers fuel depth first acc c = .ok (ms, c') → FitMembers depth ms
  member : ∀ {depth acc c ms c'}, FitMembers depth acc →
    readMember fuel depth acc c = .ok (ms, c') → FitMembers depth ms

variable {fuel depth : Nat} {c c' : Cursor}

theorem readValue_fits (ih : Sound fuel) {v : Json}
    (h : readValue (fuel + 1) depth c = .ok (v, c')) : v.Fits depth := by
  unfold readValue at h
  dsimp only at h
  split at h
  · cases h
  split at h
  · obtain ⟨_, -, h⟩ := exists_of_bind_ok h
    cases h
    exact .null
  split at h
  · obtain ⟨_, -, h⟩ := exists_of_bind_ok h
    cases h
    exact .bool true
  split at h
  · obtain ⟨_, -, h⟩ := exists_of_bind_ok h
    cases h
    exact .bool false
  split at h
  · obtain ⟨⟨x, _⟩, hread, h⟩ := exists_of_bind_ok h
    cases h
    exact fits_of_bounded (Numeral.read_bounded hread)
  split at h
  · obtain ⟨⟨s, _⟩, -, h⟩ := exists_of_bind_ok h
    cases h
    exact .str s
  split at h
  · cases depth with
    | zero => cases h
    | succ depth =>
      obtain ⟨⟨items, _⟩, hread, h⟩ := exists_of_bind_ok h
      cases h
      exact .arr (ih.items (by simp) hread)
  split at h
  · cases depth with
    | zero => cases h
    | succ depth =>
      obtain ⟨⟨members, _⟩, hread, h⟩ := exists_of_bind_ok h
      cases h
      have hmembers := ih.members (FitMembers.nil depth) hread
      exact .obj hmembers.ascending hmembers.fits
  · cases h

theorem readItems_fits (ih : Sound fuel) {first : Bool} {acc vs : List Json}
    (hacc : ∀ v ∈ acc, Fits depth v)
    (h : readItems (fuel + 1) depth first acc c = .ok (vs, c')) : ∀ v ∈ vs, Fits depth v := by
  have hnext : ∀ {c},
      (readValue fuel depth c >>= fun r => readItems fuel depth false (r.1 :: acc) r.2) =
        .ok (vs, c') → ∀ v ∈ vs, Fits depth v := by
    intro c h
    obtain ⟨⟨v, c⟩, hvalue, h⟩ := exists_of_bind_ok h
    exact ih.items (List.forall_mem_cons.mpr ⟨ih.value hvalue, hacc⟩) h
  simp only [readItems] at h
  split at h
  · cases h
  split at h
  · cases h
    simpa using hacc
  split at h
  · exact hnext h
  split at h
  · split at h
    · cases h
    · cases h
    · exact hnext h
  · cases h

theorem readMembers_fits (ih : Sound fuel) {first : Bool} {acc ms : List (String × Json)}
    (hacc : FitMembers depth acc)
    (h : readMembers (fuel + 1) depth first acc c = .ok (ms, c')) : FitMembers depth ms := by
  simp only [readMembers] at h
  split at h
  · cases h
  split at h
  · cases h
    exact hacc
  split at h
  · split at h
    · exact ih.member hacc h
    · cases h
  split at h
  · split at h
    · cases h
    · exact ih.member hacc h
    · cases h
    · cases h
  · cases h

theorem readMember_fits (ih : Sound fuel) {acc ms : List (String × Json)}
    (hacc : FitMembers depth acc)
    (h : readMember (fuel + 1) depth acc c = .ok (ms, c')) : FitMembers depth ms := by
  simp only [readMember] at h
  obtain ⟨⟨key, _⟩, -, h⟩ := exists_of_bind_ok h
  dsimp only at h
  split at h
  · cases h
  · obtain ⟨⟨v, _⟩, hvalue, h⟩ := exists_of_bind_ok h
    exact ih.members (hacc.insert key (ih.value hvalue)) h
  · cases h

/-- By induction on the fuel: each reader hands one unit less to those it calls. -/
theorem sound (fuel : Nat) : Sound fuel := by
  induction fuel with
  | zero =>
    constructor
    · intro depth c v c' h
      simp only [readValue] at h
      cases h
    · intro depth first acc c vs c' _ h
      simp only [readItems] at h
      cases h
    · intro depth first acc c ms c' _ h
      simp only [readMembers] at h
      cases h
    · intro depth acc c ms c' _ h
      simp only [readMember] at h
      cases h
  | succ fuel ih =>
    exact ⟨readValue_fits ih, readItems_fits ih, readMembers_fits ih, readMember_fits ih⟩

/-- A text denotes a value of at most `depthLimit` levels. -/
theorem fits_of_parse {s : String} {v : Json} (h : parse s = .ok v) : v.Fits depthLimit := by
  obtain ⟨⟨v', c⟩, hvalue, h⟩ := exists_of_bind_ok h
  obtain ⟨_, -, h⟩ := exists_of_bind_ok h
  cases h
  exact (sound _).value hvalue

end EventFeed.Json
