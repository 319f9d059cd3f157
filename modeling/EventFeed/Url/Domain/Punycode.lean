import EventFeed.Instances

/-! # Labels in ASCII

A label with characters beyond ASCII is written with its ASCII characters first and then, after a
hyphen, the positions and code points of the others: they are inserted in increasing order of their
code points, and what is written is how many insertions lie between one and the next. Such a
distance is a number in digits of base 36 whose last digit is told by a threshold that adapts to the
distances seen so far.
-/

namespace EventFeed.Url.Domain.Punycode

def base : Nat := 36

/-- The threshold of the digit at position `k`, counted from `base` in steps of `base`. -/
def threshold (k bias : Nat) : Nat := min (max (k - bias) 1) 26

theorem threshold_pos (k bias : Nat) : 1 ≤ threshold k bias := by
  unfold threshold
  omega

/-- Scales a distance down, counting `base` for each time. -/
def scale (delta k : Nat) : Nat × Nat :=
  if 455 < delta then scale (delta / 35) (k + base) else (delta, k)
termination_by delta
decreasing_by exact Nat.div_lt_self (by omega) (by omega)

/-- The bias after a distance; `count` characters have been placed, and the first distance counts
less. -/
def adapt (delta count : Nat) (isFirst : Bool) : Nat :=
  let delta := if isFirst then delta / 700 else delta / 2
  let (delta, k) := scale (delta + delta / count) 0
  k + 36 * delta / (delta + 38)

/-! ## Writing -/

def digitChar (d : Nat) : Char :=
  if d < 26 then Char.ofNat ('a'.toNat + d) else Char.ofNat ('0'.toNat + d - 26)

/-- The digits of a distance from position `k` on. -/
def digits (bias k q : Nat) : List Char :=
  let t := threshold k bias
  if q < t then [digitChar q]
  else digitChar (t + (q - t) % (base - t)) :: digits bias (k + base) ((q - t) / (base - t))
termination_by q
decreasing_by
  have hpos := threshold_pos k bias
  calc (q - threshold k bias) / (base - threshold k bias)
      ≤ q - threshold k bias := Nat.div_le_self _ _
    _ < q := by omega

/-- What has been written so far. -/
structure Writer where
  output : List Char
  /-- The insertions passed over since the last one written. -/
  delta : Nat
  bias : Nat
  /-- How many characters have been placed. -/
  placed : Nat

/-- Passes a character of the label while those of code point `n` are inserted; `basic` characters
were there from the start. -/
def Writer.pass (basic n : Nat) (w : Writer) (c : Char) : Writer :=
  if c.toNat < n then { w with delta := w.delta + 1 }
  else if c.toNat = n then
    { output := w.output ++ digits w.bias base w.delta
      delta := 0
      bias := adapt w.delta (w.placed + 1) (w.placed = basic)
      placed := w.placed + 1 }
  else w

/-- Inserts the characters of each code point in turn; `n` is the first code point not yet
considered. -/
def insertions (label : List Char) (basic : Nat) : List Nat → Nat → Writer → List Char
  | [], _, w => w.output
  | m :: rest, n, w =>
    let w := { w with delta := w.delta + (m - n) * (w.placed + 1) }
    let w := label.foldl (Writer.pass basic m) w
    insertions label basic rest (m + 1) { w with delta := w.delta + 1 }

def encode (label : List Char) : List Char :=
  let basic := label.filter fun c => c.toNat < 0x80
  let others := ((label.map Char.toNat).filter (0x80 ≤ ·)).mergeSort.eraseDups
  let start := if basic.isEmpty then [] else basic ++ ['-']
  start ++ insertions label basic.length others 0x80 ⟨[], 0, 72, basic.length⟩

/-! ## Reading -/

def digitValue? (c : Char) : Option Nat :=
  if 'a' ≤ c ∧ c ≤ 'z' then some (c.toNat - 'a'.toNat)
  else if 'A' ≤ c ∧ c ≤ 'Z' then some (c.toNat - 'A'.toNat)
  else if '0' ≤ c ∧ c ≤ '9' then some (c.toNat - '0'.toNat + 26)
  else none

/-- A number, unless it takes more than 32 bits. -/
def word? (n : Nat) : Option Nat := if n < 2 ^ 32 then some n else none

/-- Adds the distance at the start of a text to `i`; the digit at position `k` has the given
weight. -/
def distance? (bias : Nat) : (k weight i : Nat) → List Char → Option (Nat × List Char)
  | _, _, _, [] => none
  | k, weight, i, c :: rest => do
    let d ← digitValue? c
    let i ← word? (i + d * weight)
    let t := threshold k bias
    if d < t then return (i, rest)
    distance? bias (k + base) (← word? (weight * (base - t))) i rest

theorem length_lt_of_distance? {bias k weight i j : Nat} {cs rest : List Char}
    (h : distance? bias k weight i cs = some (j, rest)) : rest.length < cs.length := by
  induction cs generalizing k weight i with
  | nil => simp [distance?] at h
  | cons c cs ih =>
    simp only [distance?, Option.bind_eq_bind, Option.bind_eq_some_iff] at h
    obtain ⟨d, -, i', -, h⟩ := h
    split at h
    · simp only [Option.pure_def, Option.some.injEq, Prod.mk.injEq] at h
      simp [← h.2]
    · obtain ⟨w, -, h⟩ := Option.bind_eq_some_iff.1 h
      have := ih h
      simp only [List.length_cons]
      omega

/-- The character with a code point. -/
def scalar? (n : Nat) : Option Char := if n.isValidChar then some (Char.ofNat n) else none

/-- Inserts the characters that a text describes; `n` is the code point inserted last and `i` the
place after it. -/
def insertAll? (n i bias : Nat) (isFirst : Bool) (label : List Char) (cs : List Char) :
    Option (List Char) :=
  if cs.isEmpty then some label
  else
    match _h : distance? bias base 1 i cs with
    | none => none
    | some (j, rest) =>
      let count := label.length + 1
      let n := n + j / count
      let place := j % count
      match scalar? n with
      | none => none
      | some c =>
        insertAll? n (place + 1) (adapt (j - i) count isFirst) false (label.insertIdx place c) rest
termination_by cs.length
decreasing_by exact length_lt_of_distance? _h

/-- The label that a text in ASCII stands for. A hyphen at the very start does not end the ASCII
characters, and so is no digit. -/
def decode? (cs : List Char) : Option (List Char) :=
  let after := (cs.reverse.takeWhile (· != '-')).reverse
  let before := cs.take (cs.length - after.length - 1)
  insertAll? 0x80 0 72 true before (if before.isEmpty then cs else after)

end EventFeed.Url.Domain.Punycode
