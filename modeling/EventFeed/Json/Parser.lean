import EventFeed.Json.Numeral
import EventFeed.Json.Strings

/-! # Reading data text

A text is one value with spaces around it. Values nest at most `depthLimit` deep. Every recursive
call spends one unit of fuel; `parse` provides more than a text of its length can use.
-/

namespace EventFeed.Json

/-- How many lists and objects may stand inside each other. -/
def depthLimit : Nat := 127

mutual

/-- Reads a value, with the number of levels that may still be opened. -/
def readValue : Nat → Nat → Cursor → Except ReadError (Json × Cursor)
  | 0, _, c => c.refuse .endInValue
  | fuel + 1, depth, c =>
    let c := c.skipSpace
    match c.rest with
    | [] => c.refuse .endInValue
    | ch :: _ =>
      if ch = 'n' then do return (.null, ← c.word ['n', 'u', 'l', 'l'])
      else if ch = 't' then do return (.bool true, ← c.word ['t', 'r', 'u', 'e'])
      else if ch = 'f' then do return (.bool false, ← c.word ['f', 'a', 'l', 's', 'e'])
      else if ch = '-' || Numeral.isDigit ch then do
        let (n, c) ← Numeral.read c
        return (n.toJson, c)
      else if ch = '"' then do
        let (s, c) ← Strings.read c.bump
        return (.str s, c)
      else if ch = '[' then
        match depth with
        | 0 => c.refuse .tooDeep
        | depth + 1 => do
          let (items, c) ← readItems fuel depth true [] c.bump
          return (.arr items, c)
      else if ch = '{' then
        match depth with
        | 0 => c.refuse .tooDeep
        | depth + 1 => do
          let (members, c) ← readMembers fuel depth true [] c.bump
          return (.obj members, c)
      else c.refuse .expectedValue

/-- Reads the items of a list up to its closing bracket. The items read so far come last first. -/
def readItems : Nat → Nat → Bool → List Json → Cursor → Except ReadError (List Json × Cursor)
  | 0, _, _, _, c => c.refuse .endInList
  | fuel + 1, depth, first, acc, c =>
    let c := c.skipSpace
    match c.rest with
    | [] => c.refuse .endInList
    | ch :: _ =>
      if ch = ']' then .ok (acc.reverse, c.bump)
      else if first then do
        let (v, c) ← readValue fuel depth c
        readItems fuel depth false (v :: acc) c
      else if ch = ',' then
        let c := c.bump.skipSpace
        match c.rest with
        | [] => c.refuse .endInValue
        | ']' :: _ => c.refuse .trailingComma
        | _ => do
          let (v, c) ← readValue fuel depth c
          readItems fuel depth false (v :: acc) c
      else c.refuse .expectedCommaOrBracket

/-- Reads the members of an object up to its closing brace. -/
def readMembers : Nat → Nat → Bool → List (String × Json) → Cursor →
    Except ReadError (List (String × Json) × Cursor)
  | 0, _, _, _, c => c.refuse .endInObject
  | fuel + 1, depth, first, acc, c =>
    let c := c.skipSpace
    match c.rest with
    | [] => c.refuse .endInObject
    | ch :: _ =>
      if ch = '}' then .ok (acc, c.bump)
      else if first then
        if ch = '"' then readMember fuel depth acc c else c.refuse .keyNotString
      else if ch = ',' then
        let c := c.bump.skipSpace
        match c.rest with
        | [] => c.refuse .endInValue
        | '"' :: _ => readMember fuel depth acc c
        | '}' :: _ => c.refuse .trailingComma
        | _ => c.refuse .keyNotString
      else c.refuse .expectedCommaOrBrace

def readMember : Nat → Nat → List (String × Json) → Cursor →
    Except ReadError (List (String × Json) × Cursor)
  | 0, _, _, c => c.refuse .endInObject
  | fuel + 1, depth, acc, c => do
    let (key, c) ← Strings.read c.bump
    let c := c.skipSpace
    match c.rest with
    | [] => c.refuse .endInObject
    | ':' :: _ =>
      let (v, c) ← readValue fuel depth c.bump
      readMembers fuel depth false (insertMember key v acc) c
    | _ => c.refuse .expectedColon

end

/-- Nothing but spaces may follow the value. -/
def finishText (c : Cursor) : Except ReadError Unit :=
  let c := c.skipSpace
  match c.rest with
  | [] => .ok ()
  | _ => c.refuse .trailingCharacters

def parse (s : String) : Except ReadError Json := do
  let c := Cursor.ofString s
  let (v, c) ← readValue (2 * c.rest.length + 2) depthLimit c
  finishText c
  return v

end EventFeed.Json
