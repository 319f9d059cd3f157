import EventFeed.Toml.Scalar

/-! # TOML statements

A configuration file is a list of statements: headers, which open a table, and assignments. Reading
a file first finds the statements; a text that has none is malformed as a whole. What a key or a
scalar denotes is found at the same time, but a fault in it only counts when the statement is used.
-/

namespace EventFeed.Toml

structure Span where
  start : Nat
  stop : Nat
  deriving DecidableEq, Repr

/-- What can be wrong with a file before its values are looked at. -/
inductive Fault where
  | malformed
  | duplicateKey
  /-- An escape that names no character. -/
  | badCodePoint
  deriving DecidableEq, Repr

def Fault.message : Fault → String
  | malformed => "malformed configuration"
  | duplicateKey => "duplicate key"
  | badCodePoint => "invalid value, expected unicode hexadecimal value"

structure Flaw where
  fault : Fault
  span : Span
  deriving DecidableEq, Repr

structure KeyPart where
  name : Except Fault String
  span : Span

inductive RawValue where
  | scalar (value : Except Fault Scalar) (span : Span)
  | array (items : List RawValue) (span : Span)
  | inline (members : List (List KeyPart × RawValue)) (span : Span)

def RawValue.span : RawValue → Span
  | scalar _ s | array _ s | inline _ s => s

inductive Statement where
  | header (path : List KeyPart) (span : Span)
  | arrayHeader (path : List KeyPart) (span : Span)
  | assign (path : List KeyPart) (value : RawValue)

/-- A place in the file: what is left and how many bytes stand before it. -/
structure Place where
  rest : List Char
  offset : Nat

namespace Place

def advance (p : Place) (n : Nat) : Place :=
  ⟨p.rest.drop n, p.offset + (p.rest.take n).foldl (fun k c => k + c.utf8Size) 0⟩

def malformed (p : Place) : Except Flaw α := .error ⟨.malformed, ⟨p.offset, p.offset⟩⟩

def skipSpace (p : Place) : Place :=
  p.advance (p.rest.takeWhile fun c => c == ' ' || c == '\t').length

/-- Control characters that no comment and no string may contain. -/
def isControl (c : Char) : Bool := (c < ' ' && c != '\t') || c == '\x7f'

/-- Passes over a comment, if there is one. -/
def skipComment (p : Place) : Except Flaw Place :=
  match p.rest with
  | '#' :: _ =>
    let line := p.rest.takeWhile (· != '\n')
    let text := if line.getLast? = some '\r' then line.dropLast else line
    if text.any isControl then p.malformed else .ok (p.advance text.length)
  | _ => .ok p

/-- Passes over a line break, if there is one. -/
def newline? (p : Place) : Option Place :=
  match p.rest with
  | '\n' :: _ => some (p.advance 1)
  | '\r' :: '\n' :: _ => some (p.advance 2)
  | _ => none

/-- Blanks, comments and line breaks between the parts of a list; each line takes one unit of
fuel. -/
def skipLines : Nat → Place → Except Flaw Place
  | 0, p => .ok p
  | fuel + 1, p => do
    let p ← p.skipSpace.skipComment
    match p.newline? with
    | some p => skipLines fuel p
    | none => return p

/-- The end of a statement: blanks, a comment, and a line break or the end of the file. -/
def endLine (p : Place) : Except Flaw Place := do
  let p ← p.skipSpace.skipComment
  match p.newline? with
  | some p => return p
  | none => if p.rest.isEmpty then return p else p.malformed

end Place

/-! ## Strings -/

namespace Quoted

/-- The character of an escape with a number of hexadecimal digits, and what follows it. -/
def codePoint (width : Nat) (cs : List Char) : Except Fault (Char × List Char) :=
  let ds := (cs.take width).takeWhile (Bare.isDigitIn 16)
  if ds.length < width then .error .malformed
  else
    let n := Bare.valueIn 16 ds
    if n.isValidChar then .ok (Char.ofNat n, cs.drop width) else .error .badCodePoint

/-- The character of an escape, its backslash being read already, and what follows it. -/
def escape : List Char → Except Fault (Char × List Char)
  | 'b' :: rest => .ok ('\x08', rest)
  | 'e' :: rest => .ok ('\x1b', rest)
  | 'f' :: rest => .ok ('\x0c', rest)
  | 'n' :: rest => .ok ('\n', rest)
  | 'r' :: rest => .ok ('\r', rest)
  | 't' :: rest => .ok ('\t', rest)
  | '"' :: rest => .ok ('"', rest)
  | '\\' :: rest => .ok ('\\', rest)
  | 'x' :: rest => codePoint 2 rest
  | 'u' :: rest => codePoint 4 rest
  | 'U' :: rest => codePoint 8 rest
  | _ => .error .malformed

/-- The blanks and line breaks after a backslash at the end of a line, if that is where it stands.
-/
def afterContinuation? (cs : List Char) : Option (List Char) :=
  match cs.dropWhile (fun c => c == ' ' || c == '\t' || c == '\r') with
  | '\n' :: rest =>
    some (rest.dropWhile fun c => c == ' ' || c == '\t' || c == '\r' || c == '\n')
  | _ => none

/-- What the text between the quotes denotes. -/
def decodeBasic (multiline : Bool) : Nat → List Char → List Char → Except Fault String
  | 0, _, _ => .error .malformed
  | _ + 1, acc, [] => .ok (String.ofList acc.reverse)
  | fuel + 1, acc, '\\' :: rest =>
    match if multiline then afterContinuation? rest else none with
    | some rest => decodeBasic multiline fuel acc rest
    | none => do
      let (c, rest) ← escape rest
      decodeBasic multiline fuel (c :: acc) rest
  | fuel + 1, acc, c :: rest =>
    if multiline && c == '\n' then decodeBasic multiline fuel (c :: acc) rest
    else if multiline && c == '\r' && rest.head? = some '\n' then
      decodeBasic multiline fuel acc rest
    else if Place.isControl c then .error .malformed
    else decodeBasic multiline fuel (c :: acc) rest

def decodeLiteral (multiline : Bool) (cs : List Char) : Except Fault String :=
  let cs := if multiline then dropReturns cs else cs
  if cs.any fun c => Place.isControl c && !(multiline && c == '\n') then .error .malformed
  else .ok (String.ofList cs)
where
  dropReturns : List Char → List Char
    | '\r' :: '\n' :: rest => '\n' :: dropReturns rest
    | c :: rest => c :: dropReturns rest
    | [] => []

/-- The length of the text up to a closing quote on the same line; whether there is one. -/
def lineBody (quote : Char) (escapes : Bool) : Nat → List Char → Nat × Bool
  | n, [] => (n, false)
  | n, '\\' :: c :: rest =>
    if escapes && (c == '\\' || c == '"') then lineBody quote escapes (n + 2) rest
    else lineBody quote escapes (n + 1) (c :: rest)
  | n, c :: rest =>
    if c = quote then (n, true)
    else if c = '\n' then (n, false)
    else lineBody quote escapes (n + 1) rest

/-- The length of the text up to three closing quotes; whether there are any. Up to two quotes more
belong to the text. -/
def blockBody (quote : Char) (escapes : Bool) : Nat → List Char → Nat × Bool
  | n, [] => (n, false)
  | n, '\\' :: c :: rest =>
    if escapes then blockBody quote escapes (n + 2) rest
    else blockBody quote escapes (n + 1) (c :: rest)
  | n, c :: rest =>
    if c = quote && rest.take 2 == [quote, quote] then
      let more := ((rest.drop 2).take 2).takeWhile (· == quote)
      (n + more.length, true)
    else blockBody quote escapes (n + 1) rest

/-- The text of a string at a quote, whether it spans lines, and the place behind it. -/
def read (p : Place) (quote : Char) : Except Fault String × Bool × Place :=
  let basic := quote == '"'
  let decode (multiline : Bool) (cs : List Char) : Except Fault String :=
    if basic then decodeBasic multiline (cs.length + 1) [] cs else decodeLiteral multiline cs
  if p.rest.take 3 == [quote, quote, quote] then
    let body := p.rest.drop 3
    let (n, closed) := blockBody quote basic 0 body
    let text := body.take n
    let text := match text with
      | '\n' :: t | '\r' :: '\n' :: t => t
      | t => t
    (if closed then decode true text else .error .malformed, true,
      p.advance (if closed then n + 6 else n + 3))
  else
    let body := p.rest.drop 1
    let (n, closed) := lineBody quote basic 0 body
    (if closed then decode false (body.take n) else .error .malformed, false,
      p.advance (if closed then n + 2 else n + 1))

end Quoted

/-! ## Keys -/

/-- The characters that end a bare word. -/
def endsWord (c : Char) : Bool :=
  c == '.' || c == '=' || c == ',' || c == '[' || c == ']' || c == '{' || c == '}' || c == ' '
    || c == '\t' || c == '\n' || c == '\r' || c == '#' || c == '"' || c == '\''

/-- The characters of a bare key. -/
def isKeyChar (c : Char) : Bool :=
  ('a' ≤ c && c ≤ 'z') || ('A' ≤ c && c ≤ 'Z') || ('0' ≤ c && c ≤ '9') || c == '_' || c == '-'

/-- Reads one part of a key. -/
def readKeyPart (p : Place) : Except Flaw (KeyPart × Place) :=
  match p.rest with
  | [] => p.malformed
  | c :: _ =>
    if c == '"' || c == '\'' then
      let (name, multiline, after) := Quoted.read p c
      if multiline then p.malformed else .ok (⟨name, ⟨p.offset, after.offset⟩⟩, after)
    else
      let word := p.rest.takeWhile (!endsWord ·)
      if word.isEmpty then p.malformed
      else
        let after := p.advance word.length
        let name := if word.all isKeyChar then .ok (String.ofList word) else .error .malformed
        .ok (⟨name, ⟨p.offset, after.offset⟩⟩, after)

/-- Reads the parts of a key, with dots between them; each takes one unit of fuel. -/
def readKey : Nat → Place → Except Flaw (List KeyPart × Place)
  | 0, p => p.malformed
  | fuel + 1, p => do
    let (part, p) ← readKeyPart p.skipSpace
    let p := p.skipSpace
    match p.rest with
    | '.' :: _ =>
      let (parts, p) ← readKey fuel (p.advance 1)
      return (part :: parts, p)
    | _ => return ([part], p)

/-! ## Values -/

/-- The characters that end a bare value. -/
def endsValue (c : Char) : Bool :=
  c == ',' || c == ']' || c == '}' || c == '#' || c == ' ' || c == '\t' || c == '\n' || c == '\r'

/-- The bare value at a place. A time may follow a date after a single space. -/
def bareText (cs : List Char) : List Char :=
  let word := cs.takeWhile (!endsValue ·)
  match Bare.date? word, cs.drop word.length with
  | some [], ' ' :: c :: rest =>
    if Bare.isDigit c then word ++ ' ' :: (c :: rest).takeWhile (!endsValue ·) else word
  | _, _ => word

/-- How deep lists and tables may stand inside each other. -/
def depthLimit : Nat := 80

mutual

def readValue : Nat → Nat → Place → Except Flaw (RawValue × Place)
  | 0, _, p => p.malformed
  | fuel + 1, depth, p =>
    match p.rest with
    | [] => p.malformed
    | c :: _ =>
      if c == '"' || c == '\'' then
        let (text, _, after) := Quoted.read p c
        .ok (.scalar (text.map .text) ⟨p.offset, after.offset⟩, after)
      else if c == '[' then
        match depth with
        | 0 => p.malformed
        | depth + 1 => do
          let (items, after) ← readItems fuel depth [] (p.advance 1)
          return (.array items ⟨p.offset, after.offset⟩, after)
      else if c == '{' then
        match depth with
        | 0 => p.malformed
        | depth + 1 => do
          let (members, after) ← readMembers fuel depth [] (p.advance 1)
          return (.inline members ⟨p.offset, after.offset⟩, after)
      else
        let word := bareText p.rest
        if word.isEmpty || word.any (fun c => c == '"' || c == '\'' || c == '=') then p.malformed
        else
          let after := p.advance word.length
          let value := match Bare.scalar? word with
            | some s => .ok s
            | none => .error .malformed
          .ok (.scalar value ⟨p.offset, after.offset⟩, after)

/-- Reads the items of a list up to its closing bracket; those read so far come last first. -/
def readItems : Nat → Nat → List RawValue → Place → Except Flaw (List RawValue × Place)
  | 0, _, _, p => p.malformed
  | fuel + 1, depth, acc, p => do
    let p ← p.skipLines fuel
    match p.rest with
    | ']' :: _ => return (acc.reverse, p.advance 1)
    | _ =>
      let (v, p) ← readValue fuel depth p
      let p ← p.skipLines fuel
      match p.rest with
      | ',' :: _ => readItems fuel depth (v :: acc) (p.advance 1)
      | ']' :: _ => return ((v :: acc).reverse, p.advance 1)
      | _ => p.malformed

/-- Reads the members of an inline table up to its closing brace; those read so far come last
first. -/
def readMembers : Nat → Nat → List (List KeyPart × RawValue) → Place →
    Except Flaw (List (List KeyPart × RawValue) × Place)
  | 0, _, _, p => p.malformed
  | fuel + 1, depth, acc, p => do
    let p ← p.skipLines fuel
    match p.rest with
    | '}' :: _ => return (acc.reverse, p.advance 1)
    | _ =>
      let (key, p) ← readKey fuel p
      match p.rest with
      | '=' :: _ =>
        let (v, p) ← readValue fuel depth (p.advance 1).skipSpace
        let p ← p.skipLines fuel
        match p.rest with
        | ',' :: _ => readMembers fuel depth ((key, v) :: acc) (p.advance 1)
        | '}' :: _ => return (((key, v) :: acc).reverse, p.advance 1)
        | _ => p.malformed
      | _ => p.malformed

end

/-! ## Statements -/

def readStatement (fuel : Nat) (p : Place) : Except Flaw (Statement × Place) := do
  match p.rest with
  | '[' :: '[' :: _ =>
    let (path, after) ← readKey fuel (p.advance 2)
    match after.rest with
    | ']' :: ']' :: _ =>
      let after := after.advance 2
      return (.arrayHeader path ⟨p.offset, after.offset⟩, after)
    | _ => after.malformed
  | '[' :: _ =>
    let (path, after) ← readKey fuel (p.advance 1)
    match after.rest with
    | ']' :: _ =>
      let after := after.advance 1
      return (.header path ⟨p.offset, after.offset⟩, after)
    | _ => after.malformed
  | _ =>
    let (path, p) ← readKey fuel p
    match p.rest with
    | '=' :: _ =>
      let (v, p) ← readValue fuel depthLimit (p.advance 1).skipSpace
      return (.assign path v, p)
    | _ => p.malformed

/-- Reads statements to the end of the file; each takes one unit of fuel. -/
def readStatements : Nat → List Statement → Place → Except Flaw (List Statement)
  | 0, acc, _ => .ok acc.reverse
  | fuel + 1, acc, p => do
    let p ← p.skipLines (fuel + 1)
    if p.rest.isEmpty then return acc.reverse
    else
      let (s, p) ← readStatement (p.rest.length + 1) p
      readStatements fuel (s :: acc) (← p.endLine)

/-- The statements of a file. A byte order mark at its start does not count. -/
def statements (source : String) : Except Flaw (List Statement) :=
  let p : Place := ⟨source.toList, 0⟩
  let p := match p.rest with
    | '\ufeff' :: _ => p.advance 1
    | _ => p
  readStatements (p.rest.length + 1) [] p

end EventFeed.Toml
