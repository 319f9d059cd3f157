import EventFeed.Json.Basic
import EventFeed.Decimal.Shortest

/-! # Compact data text

The text of a value without spaces. Strings escape quotes, backslashes and the characters below the
space, and nothing else, so a written value is a single line.
-/

namespace EventFeed.Json

def hexDigit (n : Nat) : Char := Nat.digitChar n

/-- How one character is written inside a string. -/
def escapeChar (c : Char) : List Char :=
  if c = '"' then ['\\', '"']
  else if c = '\\' then ['\\', '\\']
  else if c = '\x08' then ['\\', 'b']
  else if c = '\x0c' then ['\\', 'f']
  else if c = '\n' then ['\\', 'n']
  else if c = '\r' then ['\\', 'r']
  else if c = '\t' then ['\\', 't']
  else if c < ' ' then ['\\', 'u', '0', '0', hexDigit (c.toNat / 16), hexDigit (c.toNat % 16)]
  else [c]

def renderString (s : String) : List Char :=
  '"' :: (s.toList.flatMap escapeChar ++ ['"'])

def renderInt (n : Int) : List Char :=
  if n < 0 then '-' :: Nat.toDigits 10 n.natAbs else Nat.toDigits 10 n.natAbs

mutual

/-- The compact text of a value, as characters. -/
def render : Json → List Char
  | .null => ['n', 'u', 'l', 'l']
  | .bool true => ['t', 'r', 'u', 'e']
  | .bool false => ['f', 'a', 'l', 's', 'e']
  | .int n => renderInt n
  | .real x => DecimalStyle.data.render x
  | .str s => renderString s
  | .arr items => '[' :: (renderItems items ++ [']'])
  | .obj members => '{' :: (renderMembers members ++ ['}'])

def renderItems : List Json → List Char
  | [] => []
  | [v] => render v
  | v :: rest => render v ++ ',' :: renderItems rest

def renderMembers : List (String × Json) → List Char
  | [] => []
  | [(k, v)] => renderString k ++ ':' :: render v
  | (k, v) :: rest => renderString k ++ ':' :: render v ++ ',' :: renderMembers rest

end

def text (v : Json) : String := String.ofList (render v)

/-- The text of members in the order given, which need not be that of the keys. -/
def recordText (members : List (String × Json)) : String :=
  String.ofList ('{' :: (renderMembers members ++ ['}']))

end EventFeed.Json
