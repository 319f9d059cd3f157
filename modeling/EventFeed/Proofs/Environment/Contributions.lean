import EventFeed.Proofs.Environment.Adoption
import EventFeed.Proofs.Environment.Lines

/-! # What variable files contribute

A variable file is read up to its first bad line, and what stands in front of that line counts. But
a file with a bad line does not count as loaded. So a file may contribute all that it could
contribute if it were loaded, and yet not be reported as such.
-/

namespace EventFeed.Environment

/-! ## Reading lines -/

/-- What the lines behind an assignment are read with. -/
def Scope.assign (scope : Scope) (name value : String) : Scope :=
  ⟨scope.env.adopt name value, scope.earlier ++ [(name, value)]⟩

/-- Good lines, read one after another: what they assign, and what a line behind them is read
with. -/
inductive Reads : Scope → List (List Char) → List (String × String) → Scope → Prop
  | nil (scope : Scope) : Reads scope [] [] scope
  | blank {scope last : Scope} {line : List Char} {lines : List (List Char)}
      {assignments : List (String × String)} (hline : Line.read scope line = .blank)
      (hrest : Reads scope lines assignments last) : Reads scope (line :: lines) assignments last
  | assignment {scope last : Scope} {line : List Char} {lines : List (List Char)}
      {assignments : List (String × String)} {name value : String}
      (hline : Line.read scope line = .assignment name value)
      (hrest : Reads (scope.assign name value) lines assignments last) :
      Reads scope (line :: lines) ((name, value) :: assignments) last

/-- A line at which the reading stops. -/
inductive Bad (scope : Scope) : Option (List Char) → Prop
  /-- It is unfinished or no text. -/
  | unfinished : Bad scope none
  | malformed {line : List Char} (hline : Line.read scope line = .malformed) : Bad scope (some line)

variable {scope last : Scope} {good : List (List Char)} {assignments : List (String × String)}

/-- Behind good lines the reading goes on with what they leave. -/
theorem readLines_append (h : Reads scope good assignments last)
    (rest : List (Option (List Char))) :
    readLines scope (good.map some ++ rest) =
      ⟨assignments ++ (readLines last rest).assignments, (readLines last rest).complete⟩ := by
  induction h with
  | nil scope => rfl
  | blank hline hrest ih =>
      rw [List.map_cons, List.cons_append, readLines, hline]
      exact ih
  | assignment hline hrest ih =>
      rw [List.map_cons, List.cons_append, readLines, hline]
      dsimp only
      rw [← Scope.assign, ih]
      rfl

theorem readLines_of_reads (h : Reads scope good assignments last) :
    readLines scope (good.map some) = ⟨assignments, true⟩ := by
  have hend := readLines_append h []
  simpa [readLines] using hend

theorem readLines_of_bad (h : Reads scope good assignments last) {bad : Option (List Char)}
    (hbad : Bad last bad) (rest : List (Option (List Char))) :
    readLines scope (good.map some ++ bad :: rest) = ⟨assignments, false⟩ := by
  rw [readLines_append h]
  cases hbad with
  | unfinished => simp [readLines]
  | malformed hline => simp [readLines, hline]

/-- Either all lines are good, or there is a first bad one. -/
theorem exists_reads (scope : Scope) (lines : List (Option (List Char))) :
    ∃ good rest assignments last, lines = good.map some ++ rest ∧
      Reads scope good assignments last ∧
        (rest = [] ∨ ∃ bad behind, rest = bad :: behind ∧ Bad last bad) := by
  induction lines generalizing scope with
  | nil => exact ⟨[], [], [], scope, rfl, .nil scope, .inl rfl⟩
  | cons line lines ih =>
      cases line with
      | none => exact ⟨[], _, [], scope, rfl, .nil scope, .inr ⟨none, lines, rfl, .unfinished⟩⟩
      | some line =>
          cases hline : Line.read scope line with
          | blank =>
              obtain ⟨good, rest, assignments, last, rfl, hgood, hrest⟩ := ih scope
              exact ⟨line :: good, rest, _, last, rfl, .blank hline hgood, hrest⟩
          | assignment name value =>
              obtain ⟨good, rest, assignments, last, rfl, hgood, hrest⟩ :=
                ih (scope.assign name value)
              exact ⟨line :: good, rest, _, last, rfl, .assignment hline hgood, hrest⟩
          | malformed =>
              refine ⟨[], _, [], scope, rfl, .nil scope, .inr ⟨some line, lines, rfl, ?_⟩⟩
              exact .malformed hline

/-! ## Reading a file -/

/-- A file of good lines, with what they assign. -/
def Sound (env : Environment) (content : ByteArray) (assignments : List (String × String)) : Prop :=
  ∃ good last, fileLines content = good.map some ∧ Reads { env } good assignments last

/-- A file with a bad line, with what is assigned in front of the first one. -/
def Broken (env : Environment) (content : ByteArray) (assignments : List (String × String)) :
    Prop :=
  ∃ good bad rest last, fileLines content = good.map some ++ bad :: rest ∧
    Reads { env } good assignments last ∧ Bad last bad

variable {env : Environment} {content : ByteArray}

theorem readFile_of_sound (h : Sound env content assignments) :
    env.readFile content = ⟨assignments, true⟩ := by
  obtain ⟨good, last, hlines, hgood⟩ := h
  rw [readFile, hlines, readLines_of_reads hgood]

theorem readFile_of_broken (h : Broken env content assignments) :
    env.readFile content = ⟨assignments, false⟩ := by
  obtain ⟨good, bad, rest, last, hlines, hgood, hbad⟩ := h
  rw [readFile, hlines, readLines_of_bad hgood hbad]

theorem sound_or_broken (env : Environment) (content : ByteArray) :
    ∃ assignments, Sound env content assignments ∨ Broken env content assignments := by
  obtain ⟨good, rest, assignments, last, hlines, hgood, rfl | ⟨bad, behind, rfl, hbad⟩⟩ :=
    exists_reads { env } (fileLines content)
  · rw [List.append_nil] at hlines
    exact ⟨assignments, .inl ⟨good, last, hlines, hgood⟩⟩
  · exact ⟨assignments, .inr ⟨good, bad, behind, last, hlines, hgood, hbad⟩⟩

/-- Behind a sound file that ends with a line feed, a bad line makes no difference to what is
assigned. -/
theorem Sound.append (h : Sound env content assignments) (hends : EndsLine content.toList)
    {tail : ByteArray} {line : List Char} (htail : fileLines tail = [some line])
    (hmark : byteOrderMark.isPrefixOf tail.toList = false)
    (hbad : ∀ scope, Bad scope (some line)) : Broken env (content ++ tail) assignments := by
  obtain ⟨good, last, hlines, hgood⟩ := h
  refine ⟨good, some line, [], last, ?_, hgood, hbad last⟩
  rw [fileLines_append hends hmark hlines, hlines, htail]

/-! ## Both files -/

/-- A file that does not count as loaded, with what is taken over from it. -/
inductive Stops (env : Environment) : Option ByteArray → List (String × String) → Prop
  | missing : Stops env none []
  | broken {content : ByteArray} {assignments : List (String × String)}
      (h : Broken env content assignments) : Stops env (some content) assignments

/-- Which of the two files counts as loaded, and all that is taken over. The file beside the program
is read if the first does not count, and then with the assignments of that one in effect. -/
inductive Loads (env : Environment) :
    Option ByteArray → Option ByteArray → Option FilePlace → List (String × String) → Prop
  | first {content : ByteArray} {beside : Option ByteArray} {assignments : List (String × String)}
      (h : Sound env content assignments) :
      Loads env (some content) beside (some .workingDirectory) assignments
  | second {working : Option ByteArray} {content : ByteArray}
      {assignments more : List (String × String)} (hworking : Stops env working assignments)
      (h : Sound (env.adoptAll assignments) content more) :
      Loads env working (some content) (some .besideProgram) (assignments ++ more)
  | neither {working beside : Option ByteArray} {assignments more : List (String × String)}
      (hworking : Stops env working assignments)
      (hbeside : Stops (env.adoptAll assignments) beside more) :
      Loads env working beside none (assignments ++ more)

variable {file working beside : Option ByteArray}

theorem firstReading_of_stops (h : Stops env file assignments) :
    env.firstReading file = ⟨assignments, false⟩ := by
  cases h with
  | missing => rfl
  | broken h => exact readFile_of_broken h

theorem stops_or_sound (env : Environment) (file : Option ByteArray) :
    ∃ assignments, Stops env file assignments ∨
      ∃ content, file = some content ∧ Sound env content assignments := by
  cases file with
  | none => exact ⟨[], .inl .missing⟩
  | some content =>
      obtain ⟨assignments, hsound | hbroken⟩ := sound_or_broken env content
      · exact ⟨assignments, .inr ⟨content, rfl, hsound⟩⟩
      · exact ⟨assignments, .inl (.broken hbroken)⟩

theorem adoptAll_append (first second : List (String × String)) :
    env.adoptAll (first ++ second) = (env.adoptAll first).adoptAll second :=
  List.foldl_append

theorem loadFiles_of_loads {loaded : Option FilePlace}
    (h : Loads env working beside loaded assignments) :
    env.loadFiles working beside = (loaded, env.adoptAll assignments) := by
  unfold loadFiles
  rw [← firstReading]
  cases h with
  | first h =>
      have hfirst : env.firstReading (some _) = _ := readFile_of_sound h
      rw [hfirst]
      rfl
  | second hworking h =>
      rw [firstReading_of_stops hworking, adoptAll_append]
      dsimp only
      rw [readFile_of_sound h]
      rfl
  | neither hworking hbeside =>
      rw [firstReading_of_stops hworking, adoptAll_append]
      cases hbeside with
      | missing => rfl
      | broken h =>
          dsimp only
          rw [readFile_of_broken h]
          rfl

theorem exists_loads (env : Environment) (working beside : Option ByteArray) :
    ∃ loaded assignments, Loads env working beside loaded assignments := by
  obtain ⟨first, hworking | ⟨content, rfl, hsound⟩⟩ := stops_or_sound env working
  · obtain ⟨more, hbeside | ⟨content, rfl, hsound⟩⟩ := stops_or_sound (env.adoptAll first) beside
    · exact ⟨none, first ++ more, .neither hworking hbeside⟩
    · exact ⟨some .besideProgram, first ++ more, .second hworking hsound⟩
  · exact ⟨some .workingDirectory, first, .first hsound⟩

/-- A variable has changed if it had no text and there is an assignment to it. -/
theorem bytes?_adoptAll_ne_iff (name : String) :
    (env.adoptAll assignments).bytes? name ≠ env.bytes? name ↔
      env.text? name = none ∧ ∃ value, (name, value) ∈ assignments := by
  have hlookup : (∃ value, (name, value) ∈ assignments) ↔ (assignments.lookup name).isSome := by
    simp [List.lookup_isSome_iff]
  rw [bytes?_adoptAll, hlookup]
  cases htext : env.text? name with
  | some text => simp
  | none =>
      rw [if_pos rfl]
      cases hvalue : assignments.lookup name with
      | none => simp
      | some value =>
          refine iff_of_true ?_ ⟨rfl, rfl⟩
          intro hsame
          have hset : env.text? name = some value := by
            rw [text?, ← hsame]
            exact fromUTF8?_toUTF8 value
          rw [htext] at hset
          cases hset

/-- A line with an equals sign and nothing else. -/
def strayLine : ByteArray := "=\n".toUTF8

/-- A variable changes if it had no text and is assigned in front of the first bad line of a file
that is read, be the file reported as loaded or not. That of the working directory is read first,
and the one beside the program if the first does not count as loaded. With neither reported, each is
missing or has a bad line, and what stands in front of that line has been taken over. So a bad line
behind a file of good lines has the effect that the file is not reported, and no other. -/
theorem variables_change_iff_assigned (env : Environment) (working beside : Option ByteArray) :
    (∃ assignments, Loads env working beside (env.loadFiles working beside).1 assignments ∧
      ∀ name,
        (env.loadFiles working beside).2.text? name =
          (env.text? name).or (assignments.lookup name) ∧
        ((env.loadFiles working beside).2.bytes? name ≠ env.bytes? name ↔
          env.text? name = none ∧ ∃ value, (name, value) ∈ assignments)) ∧
    ∀ content, EndsLine content.toList →
      (env.loadFiles (some content) none).1 = some .workingDirectory →
        env.loadFiles (some (content ++ strayLine)) none =
          (none, (env.loadFiles (some content) none).2) := by
  constructor
  · obtain ⟨loaded, assignments, hloads⟩ := exists_loads env working beside
    rw [loadFiles_of_loads hloads]
    exact ⟨assignments, hloads, fun name =>
      ⟨text?_adoptAll name, bytes?_adoptAll_ne_iff name⟩⟩
  · intro content hends hloaded
    obtain ⟨loaded, assignments, hloads⟩ := exists_loads env (some content) none
    rw [loadFiles_of_loads hloads] at hloaded ⊢
    obtain rfl : loaded = some .workingDirectory := hloaded
    cases hloads with
    | first hsound =>
        have hline : fileLines strayLine = [some ['=']] := by decide +kernel
        have hmark : byteOrderMark.isPrefixOf strayLine.toList = false := by decide +kernel
        have hbroken := hsound.append hends hline hmark fun _ => .malformed rfl
        rw [loadFiles_of_loads (.neither (.broken hbroken) .missing), List.append_nil]

/-- A file whose second line is bad. -/
def halfRead : ByteArray := "REALTIME_MAX_ATTEMPTS=7\nbad line\n".toUTF8

/-- No file is reported, and a variable has been set. -/
theorem halfRead_contributes :
    ((⟨[]⟩ : Environment).loadFiles (some halfRead) none).1 = none ∧
      ((⟨[]⟩ : Environment).loadFiles (some halfRead) none).2.text? "REALTIME_MAX_ATTEMPTS" =
        some "7" := by
  decide +kernel

end EventFeed.Environment
