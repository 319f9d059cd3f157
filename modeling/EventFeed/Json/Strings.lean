import EventFeed.Json.Cursor

/-! # Strings in data text

A string is read character by character up to its closing quote. An escape stands for one character;
characters beyond the first plane are written as two escapes, a leading and a trailing surrogate.
-/

namespace EventFeed.Json

namespace Strings

def hexValue? (c : Char) : Option Nat :=
  if '0' ≤ c && c ≤ '9' then some (c.toNat - '0'.toNat)
  else if 'a' ≤ c && c ≤ 'f' then some (c.toNat - 'a'.toNat + 10)
  else if 'A' ≤ c && c ≤ 'F' then some (c.toNat - 'A'.toNat + 10)
  else none

def byteLength (cs : List Char) : Nat := cs.foldl (fun n c => n + c.utf8Size) 0

/-- Reads the four digits of a Unicode escape. -/
def readUnit (c : Cursor) : Except ReadError (Nat × Cursor) :=
  let end4 := c.position.afterBytes 4 c.rest
  match c.rest with
  | a :: b :: d :: e :: rest =>
    match hexValue? a, hexValue? b, hexValue? d, hexValue? e with
    | some a, some b, some d, some e => .ok (((a * 16 + b) * 16 + d) * 16 + e, ⟨rest, end4⟩)
    | _, _, _, _ =>
      .error ⟨.badEscape, end4⟩
  | short =>
    if byteLength short < 4 then .error ⟨.endInString, end4⟩ else .error ⟨.badEscape, end4⟩

def isLeading (n : Nat) : Bool := 0xd800 ≤ n && n ≤ 0xdbff
def isTrailing (n : Nat) : Bool := 0xdc00 ≤ n && n ≤ 0xdfff

/-- Reads one expected character between the two halves of a surrogate pair. -/
def readLink (expected : Char) (c : Cursor) : Except ReadError Cursor :=
  match c.rest with
  | [] => c.fail .endInString
  | ch :: rest =>
    if ch = expected then .ok ⟨rest, c.position.after ch⟩
    else .error ⟨.endOfSurrogate, c.peeked⟩

/-- Reads a Unicode escape, its mark being read already. -/
def readUnicode (c : Cursor) : Except ReadError (Char × Cursor) := do
  let (n, c) ← readUnit c
  if isTrailing n then c.fail .loneSurrogate
  else if isLeading n then
    let c ← readLink '\\' c
    let c ← readLink 'u' c
    let (m, c) ← readUnit c
    if isTrailing m then
      .ok (Char.ofNat ((n - 0xd800) * 0x400 + (m - 0xdc00) + 0x10000), c)
    else c.fail .loneSurrogate
  else .ok (Char.ofNat n, c)

/-- The character a one-letter escape stands for. -/
def shortEscape? : Char → Option Char
  | '"' => some '"'
  | '\\' => some '\\'
  | '/' => some '/'
  | 'b' => some '\x08'
  | 'f' => some '\x0c'
  | 'n' => some '\n'
  | 'r' => some '\r'
  | 't' => some '\t'
  | _ => none

/-- Reads an escape, its backslash being read already. -/
def readEscape (c : Cursor) : Except ReadError (Char × Cursor) :=
  match c.rest with
  | [] => c.fail .endInString
  | 'u' :: _ => readUnicode c.bump
  | ch :: _ =>
    match shortEscape? ch with
    | some e => .ok (e, c.bump)
    | none => .error ⟨.badEscape, c.peeked⟩

/-- Reads one character of a string, or nothing when the closing quote is reached. -/
def readChar (c : Cursor) : Except ReadError (Option Char × Cursor) :=
  match c.rest with
  | [] => c.fail .endInString
  | '"' :: _ => .ok (none, c.bump)
  | '\\' :: _ => do
    let (e, c) ← readEscape c.bump
    return (some e, c)
  | ch :: _ => if ch < ' ' then .error ⟨.controlCharacter, c.peeked⟩ else .ok (some ch, c.bump)

/-- Reads characters up to the closing quote; each takes one unit of fuel. -/
def readChars : Nat → List Char → Cursor → Except ReadError (List Char × Cursor)
  | 0, _, c => c.fail .endInString
  | fuel + 1, acc, c =>
    match readChar c with
    | .error e => .error e
    | .ok (none, c) => .ok (acc.reverse, c)
    | .ok (some ch, c) => readChars fuel (ch :: acc) c

/-- Reads a string, its opening quote being read already. -/
def read (c : Cursor) : Except ReadError (String × Cursor) := do
  let (cs, c) ← readChars (c.rest.length + 1) [] c
  return (String.ofList cs, c)

end Strings

end EventFeed.Json
