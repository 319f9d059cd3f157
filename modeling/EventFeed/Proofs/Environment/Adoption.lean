import EventFeed.Environment.File
import EventFeed.Proofs.Basic

/-! # Taking over assignments

Assignments set the variables that have no text yet, each by the first of them that names it, and
leave every other variable as it is. The file beside the program is read only when that of the
working directory is missing or bad.
-/

namespace EventFeed.Environment

variable {env : Environment} {name value : String} {assignments : List (String × String)}

theorem bytes?_insert (bytes : ByteArray) (n : String) :
    (env.insert name bytes).bytes? n = if name = n then some bytes else env.bytes? n := by
  unfold insert bytes?
  rw [List.find?_cons]
  by_cases h : name = n
  · simp [h]
  · have hbeq : (name == n) = false := beq_false_of_ne h
    have hothers : (fun entry : String × ByteArray => entry.1 != name && entry.1 == n) =
        fun entry => entry.1 == n := by
      funext entry
      by_cases hentry : entry.1 = n
      · simp [hentry, Ne.symm h]
      · simp [hentry]
    simp only [hbeq, if_neg h, List.find?_filter, Bool.decide_and, Bool.decide_eq_true, hothers]

theorem bytes?_adopt (n : String) :
    (env.adopt name value).bytes? n =
      if name = n ∧ env.text? n = none then some value.toUTF8 else env.bytes? n := by
  unfold adopt
  by_cases hset : (env.text? name).isSome
  · rw [if_pos hset]
    rw [if_neg]
    rintro ⟨rfl, hnone⟩
    rw [hnone] at hset
    cases hset
  · rw [if_neg hset, bytes?_insert]
    rw [Option.not_isSome_iff_eq_none] at hset
    by_cases hn : name = n
    · subst hn
      simp [hset]
    · simp [hn]

theorem text?_adopt (n : String) :
    (env.adopt name value).text? n =
      if name = n then (env.text? n).or (some value) else env.text? n := by
  unfold text?
  rw [bytes?_adopt]
  by_cases hn : name = n
  · cases hset : env.text? n with
    | none =>
        rw [if_pos ⟨hn, rfl⟩, if_pos hn, Option.bind_some]
        unfold text? at hset
        rw [hset]
        exact fromUTF8?_toUTF8 value
    | some text =>
        rw [if_neg (by simp), if_pos hn]
        unfold text? at hset
        rw [hset]
        rfl
  · rw [if_neg fun h => hn h.1, if_neg hn]

/-- A variable has the text that it had before, or that of the first assignment to it. -/
theorem text?_adoptAll (n : String) :
    (env.adoptAll assignments).text? n = (env.text? n).or (assignments.lookup n) := by
  unfold adoptAll
  induction assignments generalizing env with
  | nil => simp
  | cons assignment rest ih =>
      obtain ⟨name, value⟩ := assignment
      rw [List.foldl_cons, ih, text?_adopt, List.lookup_cons]
      by_cases hn : name = n
      · subst hn
        rw [if_pos rfl, beq_self_eq_true]
        cases env.text? name <;> rfl
      · have hbeq : (n == name) = false := beq_false_of_ne (Ne.symm hn)
        rw [if_neg hn, hbeq]

/-- The bytes of a variable change only when it has had no text. -/
theorem bytes?_adoptAll (n : String) :
    (env.adoptAll assignments).bytes? n =
      if env.text? n = none then
        ((assignments.lookup n).map String.toUTF8).or (env.bytes? n)
      else env.bytes? n := by
  unfold adoptAll
  induction assignments generalizing env with
  | nil => simp
  | cons assignment rest ih =>
      obtain ⟨name, value⟩ := assignment
      rw [List.foldl_cons, ih, text?_adopt, bytes?_adopt, List.lookup_cons]
      by_cases hn : name = n
      · subst hn
        rw [if_pos rfl, beq_self_eq_true]
        cases env.text? name <;> simp
      · have hbeq : (n == name) = false := beq_false_of_ne (Ne.symm hn)
        have hother : ¬ (name = n ∧ env.text? n = none) := fun h => hn h.1
        rw [if_neg hn, hbeq, if_neg hother]

/-! ## The two files -/

/-- What the file of the working directory says; a file that is missing is not complete. -/
def firstReading (env : Environment) (working : Option ByteArray) : FileReading :=
  (working.map env.readFile).getD { complete := false }

/-- What the file beside the program says, if it is looked at. -/
def secondReading (env : Environment) (working beside : Option ByteArray) : FileReading :=
  let first := env.firstReading working
  if first.complete then {}
  else (beside.map (env.adoptAll first.assignments).readFile).getD { complete := false }

theorem loadFiles_eq (env : Environment) (working beside : Option ByteArray) :
    (env.loadFiles working beside).2 =
      (env.adoptAll (env.firstReading working).assignments).adoptAll
        (env.secondReading working beside).assignments := by
  unfold loadFiles secondReading
  rw [← firstReading]
  dsimp only
  cases (env.firstReading working).complete with
  | true => rfl
  | false => cases beside <;> rfl

end EventFeed.Environment
