import EventFeed.Unicode.CombiningClass
import EventFeed.Unicode.Decomposition

/-! # The composed form

Texts that differ only in how their characters are composed have one composed form: every character
is decomposed, marks are put in the order of their classes, and what can be composed is composed
again.
-/

namespace EventFeed.Unicode

/-! ## Hangul syllables

A syllable consists of a leading consonant, a vowel and possibly a trailing consonant, and its code
point is computed from theirs. -/

namespace Hangul

def leadingBase : Nat := 0x1100
def vowelBase : Nat := 0x1161
/-- One before the first trailing consonant, so that zero stands for none. -/
def trailingBase : Nat := 0x11a7
def syllableBase : Nat := 0xac00
def leadingCount : Nat := 19
def vowelCount : Nat := 21
def trailingCount : Nat := 28

def decompose? (n : Nat) : Option (List Nat) :=
  if syllableBase ≤ n ∧ n < syllableBase + leadingCount * vowelCount * trailingCount then
    let index := n - syllableBase
    let leading := leadingBase + index / (vowelCount * trailingCount)
    let vowel := vowelBase + index / trailingCount % vowelCount
    let trailing := index % trailingCount
    some (leading :: vowel :: if trailing = 0 then [] else [trailingBase + trailing])
  else none

def compose? (a b : Nat) : Option Nat :=
  if leadingBase ≤ a ∧ a < leadingBase + leadingCount
      ∧ vowelBase ≤ b ∧ b < vowelBase + vowelCount then
    some (syllableBase + ((a - leadingBase) * vowelCount + (b - vowelBase)) * trailingCount)
  else if syllableBase ≤ a ∧ a < syllableBase + leadingCount * vowelCount * trailingCount
      ∧ (a - syllableBase) % trailingCount = 0
      ∧ trailingBase < b ∧ b < trailingBase + trailingCount then
    some (a + (b - trailingBase))
  else none

end Hangul

/-! ## Decomposing -/

def decomposeChar (c : Char) : List Char :=
  let n := c.toNat
  match (composites.expansion? n <|> separated.expansion? n <|> Hangul.decompose? n) with
  | some parts => parts.map Char.ofNat
  | none => [c]

/-- Puts a mark among those collected, after all whose class is not greater. -/
def insertMark (mark : Char) : List Char → List Char
  | [] => [mark]
  | m :: ms =>
    if combiningClass mark < combiningClass m then mark :: m :: ms else m :: insertMark mark ms

/-- Sorts each run of marks by class. The second argument holds the run under way. -/
def orderMarks : List Char → List Char → List Char
  | run, [] => run
  | run, c :: rest =>
    if combiningClass c = 0 then run ++ c :: orderMarks [] rest
    else orderMarks (insertMark c run) rest

def decomposed (cs : List Char) : List Char := orderMarks [] (cs.flatMap decomposeChar)

/-! ## Composing -/

/-- The character that two characters compose to. -/
def composePair? (a b : Char) : Option Char :=
  let parts := (decomposeChar a ++ [b]).map Char.toNat
  let composite := composites.rows.find? fun row => row.drop 1 == parts
  ((composite.bind List.head?) <|> Hangul.compose? a.toNat b.toNat).map Char.ofNat

/-- The character that marks compose with, and the marks after it that did not, latest first. -/
structure Cluster where
  start : Char
  marks : List Char

def Cluster.toList (k : Cluster) : List Char := k.start :: k.marks.reverse

/-- Whether a mark between the start and a character keeps the two apart. -/
def Cluster.blocks (k : Cluster) (c : Char) : Bool :=
  match k.marks with
  | [] => false
  | m :: _ => combiningClass c ≤ combiningClass m

/-- Composes a decomposed text from left to right. -/
def compose : Option Cluster → List Char → List Char
  | none, [] => []
  | some k, [] => k.toList
  | none, c :: rest =>
    if combiningClass c = 0 then compose (some ⟨c, []⟩) rest else c :: compose none rest
  | some k, c :: rest =>
    match if k.blocks c then none else composePair? k.start c with
    | some d => compose (some { k with start := d }) rest
    | none =>
      if combiningClass c = 0 then k.toList ++ compose (some ⟨c, []⟩) rest
      else compose (some { k with marks := c :: k.marks }) rest

def composed (cs : List Char) : List Char := compose none (decomposed cs)

end EventFeed.Unicode
