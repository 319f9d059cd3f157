import EventFeed.Proofs.Logging.Installation

/-! # What the logger admits

The environment names a threshold for the records of the program. The quiet parts of the program
have a threshold of their own, which does not come on top of that one but takes its place. As long
as the environment admits warnings, it holds the quiet parts back; but where only errors are asked
for, or nothing at all, the quiet parts alone still write their warnings.
-/

namespace EventFeed

namespace LogFilter

/-! ## Targets -/

/-- So many pairs of colons. -/
def separators (n : Nat) : List Char := List.replicate (2 * n) ':'

/-- A target lies in a part of the program if it is that part, or goes on behind it with pairs of
colons and then with something that is no colon. -/
def LiesIn (part target : String) : Prop :=
  target = part ∨ ∃ n rest, target.toList = part.toList ++ separators (n + 1) ++ rest ∧
    rest.head? ≠ some ':'

/-- The target lies in one of the parts whose records are held back. -/
def Quiet (target : String) : Prop := ∃ part ∈ quietTargets, LiesIn part target

theorem separators_succ (n : Nat) : separators (n + 1) = ':' :: ':' :: separators n := rfl

theorem reverse_separators (n : Nat) : (separators n).reverse = separators n :=
  List.reverse_replicate

theorem getLast?_ne_of_cons {c d : Char} {cs : List Char} (h : (c :: cs).getLast? ≠ some d) :
    cs.getLast? ≠ some d := by
  intro hlast
  rw [List.getLast?_cons, hlast] at h
  exact h rfl

/-- A target is scanned from its end, one pair of colons after another. Of an odd number of colons
in a row the first is left to what stands above. -/
theorem mem_above_iff {part back : List Char} :
    part ∈ above back ↔ ∃ n tail, back = tail ++ (separators (n + 1) ++ part.reverse) ∧
      tail.getLast? ≠ some ':' := by
  -- the tail has no colon at its end: such a colon would have been taken for one of a pair
  fun_induction above back with
  | case1 back ih =>
      rw [List.mem_cons, ih]
      constructor
      · rintro (rfl | ⟨n, tail, rfl, htail⟩)
        · exact ⟨0, [], by simp [separators], by simp⟩
        · cases tail with
          | nil => exact ⟨n + 1, [], rfl, by simp⟩
          | cons c tail => exact ⟨n, ':' :: ':' :: c :: tail, rfl, htail⟩
      · rintro ⟨n, tail, hback, htail⟩
        rcases tail with _ | ⟨c, _ | ⟨d, tail⟩⟩
        · have hrest : back = separators n ++ part.reverse := by simpa [separators_succ] using hback
          cases n with
          | zero => exact .inl (by simp [hrest, separators])
          | succ n => exact .inr ⟨n, [], hrest, by simp⟩
        · obtain rfl : ':' = c := (List.cons.inj hback).1
          exact absurd rfl htail
        · have hrest : back = tail ++ (separators (n + 1) ++ part.reverse) := by
            simpa using (List.cons.inj (List.cons.inj hback).2).2
          exact .inr ⟨n, tail, hrest, getLast?_ne_of_cons (getLast?_ne_of_cons htail)⟩
  | case2 c back hpair ih =>
      rw [ih]
      constructor
      · rintro ⟨n, tail, rfl, htail⟩
        cases tail with
        | nil =>
            refine ⟨n, [c], rfl, ?_⟩
            intro hc
            exact hpair _ (Option.some.inj hc) rfl
        | cons d tail => exact ⟨n, c :: d :: tail, rfl, htail⟩
      · rintro ⟨n, tail, hback, htail⟩
        cases tail with
        | nil => exact (hpair _ (List.cons.inj hback).1 (List.cons.inj hback).2).elim
        | cons d tail => exact ⟨n, tail, (List.cons.inj hback).2, getLast?_ne_of_cons htail⟩
  | case3 => simp [separators_succ]

theorem isQuiet_iff {target : String} : isQuiet target = true ↔ Quiet target := by
  have habove : ∀ part : String, part.toList ∈ above target.toList.reverse ↔
      ∃ n rest, target.toList = part.toList ++ separators (n + 1) ++ rest ∧
        rest.head? ≠ some ':' := by
    intro part
    rw [mem_above_iff]
    constructor
    · rintro ⟨n, tail, htarget, htail⟩
      refine ⟨n, tail.reverse, ?_, by rwa [List.head?_reverse]⟩
      rw [← List.reverse_inj]
      simp [htarget, reverse_separators]
    · rintro ⟨n, rest, htarget, hrest⟩
      refine ⟨n, rest.reverse, ?_, by rwa [List.getLast?_reverse]⟩
      simp [htarget, reverse_separators]
  simp only [isQuiet, List.any_eq_true, beq_iff_eq, List.mem_cons, Quiet, LiesIn, ← habove]
  constructor
  · rintro ⟨_, htarget, part, hpart, rfl⟩
    exact ⟨part, hpart, htarget.imp_left fun h => String.toList_inj.mp h.symm⟩
  · rintro ⟨part, hpart, htarget⟩
    exact ⟨part.toList, htarget.imp_left fun h => by rw [h], part, hpart, rfl⟩

instance (target : String) : Decidable (Quiet target) := decidable_of_iff _ isQuiet_iff

example : Quiet "tungstenite::protocol" ∧ ¬ Quiet "tungstenite2" := by decide +kernel

/-! ## Levels -/

/-- A record is admitted up to the threshold of the program, and if its target is quiet, up to that
of the quiet parts instead. -/
def Admitted (t : LogThreshold) (r : LogRecord) : Prop :=
  if Quiet r.target then quietThreshold.admits r.level = true else t.admits r.level = true

variable {t : LogThreshold} {r : LogRecord}

theorem admits_iff : admits t r = true ↔ Admitted t r := by
  unfold admits threshold Admitted
  by_cases hquiet : Quiet r.target
  · rw [if_pos (isQuiet_iff.mpr hquiet), if_pos hquiet]
  · rw [if_neg (mt isQuiet_iff.mp hquiet), if_neg hquiet]

instance (t : LogThreshold) (r : LogRecord) : Decidable (Admitted t r) :=
  decidable_of_iff _ admits_iff

theorem Admitted.of_quiet (h : Admitted t r) (hquiet : Quiet r.target) :
    quietThreshold.admits r.level = true := by
  rwa [Admitted, if_pos hquiet] at h

theorem Admitted.of_not_quiet (h : Admitted t r) (hquiet : ¬ Quiet r.target) :
    t.admits r.level = true := by
  rwa [Admitted, if_neg hquiet] at h

/-- A warning of a quiet part is admitted by any threshold. -/
theorem admitted_warning (t : LogThreshold) {target : String} (h : Quiet target)
    (message : String) : Admitted t ⟨.warn, target, message⟩ := by
  rw [Admitted, if_pos h]
  rfl

end LogFilter

theorem LogThreshold.admits_trans {t : LogThreshold} {level other : LogLevel}
    (h : t.admits level = true) (hother : (upTo level).admits other = true) :
    t.admits other = true :=
  decide_eq_true (Nat.le_trans (of_decide_eq_true hother) (of_decide_eq_true h))

/-- Warnings are admitted unless only errors are, or nothing at all. -/
theorem LogThreshold.admits_warn_iff {t : LogThreshold} :
    t.admits .warn = true ↔ t ≠ .off ∧ t ≠ .upTo .error := by
  cases t with
  | off => decide
  | upTo level => cases level <;> decide

namespace Logger

/-! ## Records one after another -/

/-- The record in which the logger says with what threshold it has been set up. -/
def announcement (t : LogThreshold) : LogRecord :=
  .watch .info ("Logger initialized with level: " ++ thresholdText t)

/-- The line that is made of a use of the logger once it has been tried to set it up. -/
def Use.line : Use → LogLine
  | setUp a => a.line (.watch .warn "Logger already initialized")
  | log line => line

variable {l : Logger} {t : LogThreshold}

theorem use_eq_write (h : l.tried = true) (u : Use) : l.use u = l.write u.line := by
  cases u with
  | setUp a =>
      rw [use, attempt, Logger.setUp.eq_def, if_pos h]
      rfl
  | log line => exact log_eq_write l line

theorem lines_write (ht : l.installed = some t) (line : LogLine) :
    (l.write line).lines = l.lines ++ [line].filter fun x => LogFilter.Admitted t x.record := by
  rw [write_lines, ht, Option.any_some]
  by_cases h : LogFilter.Admitted t line.record
  · rw [if_pos (LogFilter.admits_iff.mpr h)]
    simp [h]
  · rw [if_neg (mt LogFilter.admits_iff.mp h)]
    simp [h]

/-- Of all lines that are made, those of admitted records are written. -/
theorem lines_run (htried : l.tried = true) (ht : l.installed = some t) (uses : List Use) :
    (l.run uses).lines =
      l.lines ++ (uses.map Use.line).filter fun x => LogFilter.Admitted t x.record := by
  induction uses generalizing l with
  | nil => simp [run]
  | cons u uses ih =>
      have hrun : l.run (u :: uses) = (l.write u.line).run uses := by
        rw [← use_eq_write htried]
        rfl
      rw [hrun, ih (write_tried.trans htried) (write_installed.trans ht), lines_write ht,
        List.append_assoc, ← List.filter_append]
      rfl

theorem lines_run_setUp (line : LogRecord → LogLine) (dir : Path) (uses : List Use) :
    ((({} : Logger).setUp line t dir (.ok ())).2.run uses).lines =
      (line (announcement t) :: uses.map Use.line).filter fun x =>
        LogFilter.Admitted t x.record := by
  have hrun : (({} : Logger).setUp line t dir (.ok ())).2.run uses =
      ({ tried := true, installed := some t } : Logger).run
        (.log (line (announcement t)) :: uses) := by
    change _ = (({ tried := true, installed := some t } : Logger).log _).run uses
    rw [log_eq_write]
    rfl
  rw [hrun, lines_run rfl rfl]
  rfl

/-- The environment names a threshold, and the logger is set up with it. Whatever is logged from
then on, and however often it is tried to set up the logger again, the admitted records are written,
in their order: nothing of a quiet target goes beyond a warning, and nothing of another target goes
beyond the threshold. But the quiet targets keep to the threshold only where it admits warnings. If
the environment asks for errors only, or for nothing at all, then records beyond the threshold can
be written. -/
theorem threshold_binds_iff (build : Build) (env : Environment) (line : LogRecord → LogLine)
    (dir : Path) :
    let t := LogThreshold.ofEnvironment build env
    let written (uses : List Use) := ((({} : Logger).setUp line t dir (.ok ())).2.run uses).lines
    ((∀ uses, ∀ x ∈ written uses, t.admits x.record.level = true) ↔
      t ≠ .off ∧ t ≠ .upTo .error) ∧
    ∀ uses,
      written uses = ((line (announcement t) :: uses.map Use.line).filter fun x =>
        LogFilter.Admitted t x.record) ∧
      ∀ x ∈ written uses,
        (LogFilter.Quiet x.record.target →
          LogFilter.quietThreshold.admits x.record.level = true) ∧
        (¬ LogFilter.Quiet x.record.target → t.admits x.record.level = true) := by
  intro t written
  have hwritten : ∀ uses, written uses = (line (announcement t) :: uses.map Use.line).filter
      fun x => LogFilter.Admitted t x.record := lines_run_setUp line dir
  have hadmitted : ∀ uses, ∀ x ∈ written uses, LogFilter.Admitted t x.record := by
    intro uses x hx
    rw [hwritten] at hx
    exact of_decide_eq_true (List.mem_filter.mp hx).2
  refine ⟨?_, fun uses => ⟨hwritten uses, fun x hx => ?_⟩⟩
  · rw [← LogThreshold.admits_warn_iff]
    constructor
    · intro hbound
      -- a warning of a quiet part is written in any case
      have hquiet : LogFilter.Quiet "tungstenite" := ⟨_, List.mem_cons_self, .inl rfl⟩
      let warning : LogLine := ⟨"", ⟨.warn, "tungstenite", ""⟩, ""⟩
      refine hbound [.log warning] warning ?_
      rw [hwritten]
      refine List.mem_filter.mpr ⟨List.mem_cons_of_mem _ List.mem_cons_self, ?_⟩
      exact decide_eq_true (LogFilter.admitted_warning t hquiet "")
    · intro hwarn uses x hx
      by_cases hquiet : LogFilter.Quiet x.record.target
      · exact LogThreshold.admits_trans hwarn ((hadmitted uses x hx).of_quiet hquiet)
      · exact (hadmitted uses x hx).of_not_quiet hquiet
  · exact ⟨(hadmitted uses x hx).of_quiet, (hadmitted uses x hx).of_not_quiet⟩

/-- The variables of a process that wants to see errors only. -/
def errorsOnly : Environment := ⟨[(LogThreshold.envName, "error".toUTF8)]⟩

/-- A warning of the socket. -/
def socketWarning : LogLine :=
  ⟨"", ⟨.warn, "tungstenite::protocol", "unexpected frame"⟩, "lib.rs:1"⟩

/-- That process gets to see the warning. -/
theorem socketWarning_is_written :
    (LogThreshold.ofEnvironment .debug errorsOnly).admits socketWarning.record.level = false ∧
      ((({} : Logger).setUp (⟨"", ·, ""⟩) (.ofEnvironment .debug errorsOnly) (.ofText ".")
        (.ok ())).2.run [.log socketWarning]).lines = [socketWarning] := by
  decide +kernel

end Logger

end EventFeed
