import EventFeed.Logging.Logger
import Mathlib.Data.List.Induction

/-! # Setting up the logger

The first attempt to set up the logger decides for the whole process. If its file can be created,
what its threshold admits is written from then on. If not, no logger is ever installed and nothing
is ever written, and yet every later attempt succeeds.
-/

namespace EventFeed

/-- A record that is admitted for its target is not beyond the highest threshold. -/
theorem LogFilter.highest_admits {t : LogThreshold} {r : LogRecord} (h : admits t r = true) :
    (highest t).admits r.level = true := by
  have hle : r.level.rank ≤ (threshold t r.target).rank := of_decide_eq_true h
  refine decide_eq_true (Nat.le_trans hle ?_)
  unfold threshold highest LogThreshold.max
  split <;> split <;> omega

namespace Logger

/-- An attempt to set up the logger. -/
structure Attempt where
  /-- Makes a line of one of the logger's own records. -/
  line : LogRecord → LogLine
  threshold : LogThreshold
  dir : Path
  /-- Whether the file can be created in the directory. -/
  file : Except FileFault Unit

/-- The threshold with which a logger is installed if the attempt counts. -/
def Attempt.installs (a : Attempt) : Option LogThreshold := a.file.toOption.map fun _ => a.threshold

def attempt (l : Logger) (a : Attempt) : Except String Unit × Logger :=
  l.setUp a.line a.threshold a.dir a.file

/-- A record is logged: one beyond the highest threshold is not even handed to the logger. -/
def log (l : Logger) (line : LogLine) : Logger :=
  if l.maxThreshold.admits line.record.level then l.write line else l

/-- What a process does with its logger. -/
inductive Use where
  | setUp (attempt : Attempt)
  | log (line : LogLine)

def Use.attempt? : Use → Option Attempt
  | setUp a => some a
  | log _ => none

def use (l : Logger) : Use → Logger
  | .setUp a => (l.attempt a).2
  | .log line => l.log line

def run (l : Logger) (uses : List Use) : Logger := uses.foldl use l

/-- The attempts among what a process does, in their order. -/
def attempts (uses : List Use) : List Attempt := uses.filterMap Use.attempt?

variable {l : Logger} {a : Attempt} {line : LogLine} {uses : List Use} {made : List Attempt}

@[simp] theorem write_tried : (l.write line).tried = l.tried := by
  unfold write
  split
  · split <;> rfl
  · rfl

@[simp] theorem write_installed : (l.write line).installed = l.installed := by
  unfold write
  split
  · split <;> rfl
  · rfl

/-- What is written depends on the installed logger alone. -/
theorem write_lines : (l.write line).lines =
    if l.installed.any fun t => LogFilter.admits t line.record then l.lines ++ [line]
    else l.lines := by
  unfold write
  cases l.installed with
  | none => rfl
  | some t =>
      simp only [Option.any_some]
      split <;> rfl

theorem log_eq_write (l : Logger) (line : LogLine) : l.log line = l.write line := by
  unfold log
  split
  · rfl
  next hbeyond =>
    unfold write maxThreshold at *
    cases hinstalled : l.installed with
    | none => rfl
    | some t =>
        rw [hinstalled] at hbeyond
        have hrefused : LogFilter.admits t line.record ≠ true := mt LogFilter.highest_admits hbeyond
        exact (if_neg hrefused).symm

/-- By what attempts a logger has come to be as it is: the first of them has decided. -/
structure Decided (l : Logger) (made : List Attempt) : Prop where
  tried : l.tried = !made.isEmpty
  installed : l.installed = made.head?.bind Attempt.installs

namespace Decided

theorem start : ({} : Logger).Decided [] := ⟨rfl, rfl⟩

theorem log (h : l.Decided made) (line : LogLine) : (l.log line).Decided made := by
  rw [log_eq_write]
  exact ⟨write_tried.trans h.tried, write_installed.trans h.installed⟩

/-- The first attempt installs a logger or fails; any other succeeds and installs nothing. -/
theorem attempt (h : l.Decided made) (a : Attempt) :
    ((l.attempt a).1 = .ok () ↔ made ≠ [] ∨ a.file = .ok ()) ∧
      (l.attempt a).2.Decided (made ++ [a]) := by
  unfold Logger.attempt setUp
  cases made with
  | cons first made =>
      have htried : l.tried = true := h.tried
      rw [htried, if_pos rfl]
      exact ⟨by simp, by simp [htried], by simpa using h.installed⟩
  | nil =>
      have htried : l.tried = false := h.tried
      rw [htried, if_neg Bool.false_ne_true]
      cases hfile : a.file with
      | error fault =>
          refine ⟨by simp, rfl, ?_⟩
          simpa [Attempt.installs, hfile, Except.toOption] using h.installed
      | ok _ => exact ⟨by simp, by simp, by simp [Attempt.installs, hfile, Except.toOption]⟩

end Decided

theorem run_decided (h : l.Decided made) (uses : List Use) :
    (l.run uses).Decided (made ++ attempts uses) := by
  induction uses using List.reverseRecOn with
  | nil => simpa [run, attempts] using h
  | append_singleton uses u ih =>
      have hrun : l.run (uses ++ [u]) = (l.run uses).use u := List.foldl_append
      have hmade : attempts (uses ++ [u]) = attempts uses ++ u.attempt?.toList := by
        cases u <;> simp [attempts, Use.attempt?]
      rw [hrun, hmade, ← List.append_assoc]
      cases u with
      | setUp a => exact (ih.attempt a).2
      | log line => simpa [Use.attempt?, use] using ih.log line

/-- Whatever a process has logged and tried before, an attempt to set up the logger succeeds if its
file can be created or if there has been another attempt before it. But whether a logger is
installed then, and with which threshold, is up to the first attempt of all: a logger is installed
if the file of that attempt could be created, and none otherwise, also when later ones could. What
is logged afterwards is written as the threshold of the first attempt says, and not at all if that
attempt has failed. -/
theorem first_attempt_decides (uses : List Use) (a : Attempt) :
    let l := ({} : Logger).run uses
    let first := (attempts uses).headD a
    ((l.attempt a).1 = .ok () ↔ attempts uses ≠ [] ∨ a.file = .ok ()) ∧
      (l.attempt a).2.installed = first.installs ∧
      ((l.attempt a).2.installed.isSome ↔ first.file = .ok ()) ∧
      ∀ later line,
        let after := (l.attempt a).2.run later
        (after.log line).lines =
          if first.installs.any fun t => LogFilter.admits t line.record then after.lines ++ [line]
          else after.lines := by
  intro l first
  have hbefore : l.Decided (attempts uses) := run_decided .start uses
  obtain ⟨hok, hdecided⟩ := hbefore.attempt a
  have hfirst : (attempts uses ++ [a]).head? = some first := by
    cases hmade : attempts uses <;> simp [first, hmade]
  have hinstalled : (l.attempt a).2.installed = first.installs := by
    rw [hdecided.installed, hfirst]
    rfl
  refine ⟨hok, hinstalled, ?_, fun later line => ?_⟩
  · rw [hinstalled, Attempt.installs]
    cases first.file <;> simp [Except.toOption]
  · intro after
    have hafter : after.installed = first.installs := by
      rw [(run_decided hdecided later).installed, List.head?_append, hfirst]
      rfl
    rw [log_eq_write, write_lines, hafter]

/-- An attempt in a directory that does not exist. -/
def misplaced : Attempt where
  line r := ⟨"", r, ""⟩
  threshold := .standard .debug
  dir := .ofText "missing"
  file := .error .notFound

/-- The second of two such attempts succeeds, and there is no logger. -/
theorem misplaced_twice_succeeds :
    ((({} : Logger).run [.setUp misplaced]).attempt misplaced).1 = .ok () ∧
      ((({} : Logger).run [.setUp misplaced]).attempt misplaced).2.installed = none := by
  decide +kernel

end Logger

end EventFeed
