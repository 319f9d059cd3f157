/-! # Tables of code points

A table is written as lines of text: rows with a blank between them, each a few hexadecimal numbers
with commas between them. A row begins with a code point, and the rows are in increasing order of
it.
-/

namespace EventFeed.Unicode

/-- Rows of numbers, in increasing order of the code point that each begins with. -/
structure Table where
  rows : Array (List Nat)

namespace Table

/-- The value of a hexadecimal digit in lower case. -/
def digit (c : Char) : Nat :=
  if 'a' ≤ c then c.toNat - 'a'.toNat + 10 else c.toNat - '0'.toNat

/-- The numbers of a row, the last one under way: `n` holds its digits so far. -/
def readRow (n : Nat) : List Char → List Nat
  | [] => [n]
  | c :: rest => if c = ',' then n :: readRow 0 rest else readRow (n * 16 + digit c) rest

/-- The rows that a line holds, the last one under way: `row` holds its characters so far, latest
first. -/
def readLine (row : List Char) : List Char → List (List Nat)
  | [] => [readRow 0 row.reverse]
  | c :: rest =>
    if c = ' ' then readRow 0 row.reverse :: readLine [] rest else readLine (c :: row) rest

def ofLines (lines : List String) : Table :=
  ⟨(lines.flatMap fun line => readLine [] line.toList).toArray⟩

/-- The last row that begins at or before a code point. -/
def row? (table : Table) (n : Nat) : Option (List Nat) :=
  table.rows.findRev? fun row => row.headD 0 ≤ n

/-- Whether a code point lies in one of the ranges `first,last` of a table; a range of one code
point is written as that code point alone. -/
def covers (table : Table) (n : Nat) : Bool :=
  match table.row? n with
  | some [first] => n == first
  | some (_ :: last :: _) => n ≤ last
  | _ => false

/-- The value of a code point in a table of rows `first,last,value`. -/
def value? (table : Table) (n : Nat) : Option Nat :=
  match table.row? n with
  | some [_, last, value] => if n ≤ last then some value else none
  | _ => none

/-- What a code point stands for in a table that has a row for each. -/
def expansion? (table : Table) (n : Nat) : Option (List Nat) :=
  match table.row? n with
  | some (first :: rest) => if n = first then some rest else none
  | _ => none

end Table

end EventFeed.Unicode
