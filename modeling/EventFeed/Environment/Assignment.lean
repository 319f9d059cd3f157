import EventFeed.Environment.Basic
import EventFeed.Text.Alphanumeric
import EventFeed.Text.Blank

/-! # Assignments

A line of a variable file assigns a value to a name. The value may be quoted in whole or in part.
Single quotes keep everything; elsewhere a backslash escapes a few characters, and a dollar sign
with a name, or with a name in braces, is replaced by the value of that variable.
-/

namespace EventFeed.Environment

/-- What a value is read with: the variables that are set, and the assignments of earlier lines. -/
structure Scope where
  env : Environment
  earlier : List (String × String) := []

/-- The value that replaces a name: that of the variable, or else of the latest assignment. -/
def Scope.value (scope : Scope) (name : List Char) : List Char :=
  let name := String.ofList name
  match scope.env.text? name with
  | some v => v.toList
  | none => ((scope.earlier.reverse.lookup name).getD "").toList

/-- What the next character of a value belongs to. A name that is being read is kept in reverse. -/
inductive Place where
  | plain
  | double
  | single
  | escaped (inDouble : Bool)
  | name (inDouble : Bool) (read : List Char)
  | braced (inDouble : Bool) (read : List Char)
  /-- Behind a blank only more blanks or a comment may follow. -/
  | closed
  deriving DecidableEq, Repr

/-- The place outside a name or an escape. -/
def Place.outside (inDouble : Bool) : Place := if inDouble then .double else .plain

/-- The character that a backslash and a character stand for. -/
def unescape? : Char → Option Char
  | '\\' => some '\\'
  | '\'' => some '\''
  | '"' => some '"'
  | '$' => some '$'
  | ' ' => some ' '
  | 'n' => some '\n'
  | _ => none

/-- Reads the characters of a value onto those read before; none if the value is malformed. -/
def readValue (scope : Scope) : Place → List Char → List Char → Option (List Char)
  | .plain, out, [] | .closed, out, [] | .escaped false, out, [] => some out
  | .name false read, out, [] => some (out ++ scope.value read.reverse)
  | _, _, [] => none
  | .closed, out, c :: rest =>
    if c = ' ' ∨ c = '\t' then readValue scope .closed out rest
    else if c = '#' then some out
    else none
  | .escaped inDouble, out, c :: rest =>
    match unescape? c with
    | some e => readValue scope (.outside inDouble) (out ++ [e]) rest
    | none => none
  | .single, out, c :: rest =>
    if c = '\'' then readValue scope .plain out rest else readValue scope .single (out ++ [c]) rest
  | .name inDouble read, out, c :: rest =>
    if Text.isAlphanumeric c then readValue scope (.name inDouble (c :: read)) out rest
    else if c = '{' ∧ read = [] then readValue scope (.braced inDouble []) out rest
    else
      let out := out ++ scope.value read.reverse
      if c = '$' then readValue scope (.name inDouble []) out rest
      else readValue scope (.outside inDouble) (out ++ [c]) rest
  | .braced inDouble read, out, c :: rest =>
    if c = '}' then readValue scope (.outside inDouble) (out ++ scope.value read.reverse) rest
    else readValue scope (.braced inDouble (c :: read)) out rest
  | .double, out, c :: rest =>
    if c = '$' then readValue scope (.name true []) out rest
    else if c = '"' then readValue scope .plain out rest
    else if c = '\\' then readValue scope (.escaped true) out rest
    else readValue scope .double (out ++ [c]) rest
  | .plain, out, c :: rest =>
    if c = '$' then readValue scope (.name false []) out rest
    else if c = '\'' then readValue scope .single out rest
    else if c = '"' then readValue scope .double out rest
    else if c = '\\' then readValue scope (.escaped false) out rest
    else if c = ' ' ∨ c = '\t' then readValue scope .closed out rest
    else readValue scope .plain (out ++ [c]) rest

def isKeyHead (c : Char) : Bool := c.isAlpha || c == '_'

def isKeyTail (c : Char) : Bool := c.isAlphanum || c == '_' || c == '.'

/-- A name at the start of a text, and the text after it. -/
def readKey (cs : List Char) : Option (List Char × List Char) :=
  if (cs.head?.map isKeyHead).getD false then some (cs.span isKeyTail) else none

inductive Line where
  | blank
  | assignment (name value : String)
  | malformed
  deriving DecidableEq, Repr

/-- The word that may stand in front of an assignment. -/
def exportWord : List Char := ['e', 'x', 'p', 'o', 'r', 't']

/-- The name that is assigned and the text behind the equals sign. -/
def readTarget (cs : List Char) : Option (List Char × List Char) := do
  let (key, rest) ← readKey cs
  match rest.dropWhile Text.isBlank with
  | '=' :: rest => return (key, rest)
  | rest =>
    guard (key = exportWord)
    let (key, rest) ← readKey rest
    match rest.dropWhile Text.isBlank with
    | '=' :: rest => return (key, rest)
    | _ => none

def Line.read (scope : Scope) (line : List Char) : Line :=
  let cs := Text.trimChars line
  if cs = [] ∨ cs.head? = some '#' then .blank
  else
    match readTarget cs with
    | none => .malformed
    | some (name, rest) =>
      let rest := rest.dropWhile Text.isBlank
      let name := String.ofList name
      if rest = [] ∨ rest.head? = some '#' then .assignment name ""
      else
        match readValue scope .plain [] rest with
        | some value => .assignment name (String.ofList value)
        | none => .malformed

end EventFeed.Environment
