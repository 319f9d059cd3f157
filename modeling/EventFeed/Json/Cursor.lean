/-! # A place in data text

The characters still to be read and where the next of them stands. Lines count from one; a column is
the number of bytes since the start of the line. A fault names the last byte that was read, or the
byte that was looked at and refused.
-/

namespace EventFeed.Json

structure Position where
  line : Nat
  column : Nat
  deriving DecidableEq, Repr, Inhabited

namespace Position

def start : Position := ⟨1, 0⟩

/-- The position once a character has been read. -/
def after (p : Position) (c : Char) : Position :=
  if c = '\n' then ⟨p.line + 1, 0⟩ else ⟨p.line, p.column + c.utf8Size⟩

/-- The position once the first byte of a character has been read. -/
def afterByte (p : Position) (c : Char) : Position :=
  if c = '\n' then ⟨p.line + 1, 0⟩ else ⟨p.line, p.column + 1⟩

/-- The position a number of bytes further into a text. -/
def afterBytes (p : Position) : Nat → List Char → Position
  | _, [] => p
  | 0, _ => p
  | n, c :: rest =>
    if c.utf8Size ≤ n then (p.after c).afterBytes (n - c.utf8Size) rest
    else ⟨p.line, p.column + n⟩

end Position

inductive Fault where
  | endInList
  | endInObject
  | endInString
  | endInValue
  | expectedColon
  | expectedCommaOrBracket
  | expectedCommaOrBrace
  | expectedWord
  | expectedValue
  | badEscape
  | badNumber
  | numberTooLarge
  | controlCharacter
  | keyNotString
  | loneSurrogate
  | trailingComma
  | trailingCharacters
  | endOfSurrogate
  | tooDeep
  deriving DecidableEq, Repr

def Fault.message : Fault → String
  | endInList => "EOF while parsing a list"
  | endInObject => "EOF while parsing an object"
  | endInString => "EOF while parsing a string"
  | endInValue => "EOF while parsing a value"
  | expectedColon => "expected `:`"
  | expectedCommaOrBracket => "expected `,` or `]`"
  | expectedCommaOrBrace => "expected `,` or `\x7d`"
  | expectedWord => "expected ident"
  | expectedValue => "expected value"
  | badEscape => "invalid escape"
  | badNumber => "invalid number"
  | numberTooLarge => "number out of range"
  | controlCharacter => "control character (\\u0000-\\u001F) found while parsing a string"
  | keyNotString => "key must be a string"
  | loneSurrogate => "lone leading surrogate in hex escape"
  | trailingComma => "trailing comma"
  | trailingCharacters => "trailing characters"
  | endOfSurrogate => "unexpected end of hex escape"
  | tooDeep => "recursion limit exceeded"

structure ReadError where
  fault : Fault
  position : Position
  deriving DecidableEq, Repr

/-- The wording of a place at the end of a message. -/
def Position.suffix (p : Position) : String := s!" at line {p.line} column {p.column}"

def ReadError.message (e : ReadError) : String := e.fault.message ++ e.position.suffix

structure Cursor where
  rest : List Char
  position : Position
  deriving Repr

namespace Cursor

def ofString (s : String) : Cursor := ⟨s.toList, .start⟩

/-- Where a fault in the next byte is reported. -/
def peeked (c : Cursor) : Position :=
  match c.rest with
  | [] => c.position
  | ch :: _ => c.position.afterByte ch

/-- Reads one character, if there is one. -/
def bump (c : Cursor) : Cursor :=
  match c.rest with
  | [] => c
  | ch :: rest => ⟨rest, c.position.after ch⟩

def peek? (c : Cursor) : Option Char := c.rest.head?

/-- A fault at the last byte read. -/
def fail (c : Cursor) (fault : Fault) : Except ReadError α := .error ⟨fault, c.position⟩

/-- A fault at the byte looked at. -/
def refuse (c : Cursor) (fault : Fault) : Except ReadError α := .error ⟨fault, c.peeked⟩

def skipWhile (test : Char → Bool) (c : Cursor) : Cursor :=
  go c.rest c.position
where
  go : List Char → Position → Cursor
    | [], p => ⟨[], p⟩
    | ch :: rest, p => if test ch then go rest (p.after ch) else ⟨ch :: rest, p⟩

def isSpace (c : Char) : Bool := c == ' ' || c == '\n' || c == '\t' || c == '\r'

def skipSpace (c : Cursor) : Cursor := c.skipWhile isSpace

/-- Reads a word character by character. -/
def word : List Char → Cursor → Except ReadError Cursor
  | [], c => .ok c
  | expected :: more, c =>
    match c.rest with
    | [] => c.fail .endInValue
    | ch :: rest =>
      if ch = expected then word more ⟨rest, c.position.after ch⟩
      else .error ⟨.expectedWord, c.position.afterByte ch⟩

end Cursor

end EventFeed.Json
