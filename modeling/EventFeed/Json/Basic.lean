import EventFeed.Decimal.Binary64

/-! # Data values

The values of JSON text. Integers stand apart from numbers with a fraction or an exponent, and the
members of an object are kept in the order of their keys, one member for each key.
-/

namespace EventFeed

inductive Json where
  | null
  | bool (value : Bool)
  /-- An integer; reading yields those from `-2 ^ 63` to `2 ^ 64 - 1`. -/
  | int (value : Int)
  | real (value : Binary64)
  | str (value : String)
  | arr (items : List Json)
  | obj (members : List (String × Json))
  deriving Inhabited, Repr, BEq

namespace Json

/-- Adds a member in the order of the keys. A member with the same key is replaced. -/
def insertMember (key : String) (value : α) : List (String × α) → List (String × α)
  | [] => [(key, value)]
  | (k, v) :: rest =>
    if key < k then (key, value) :: (k, v) :: rest
    else if key = k then (key, value) :: rest
    else (k, v) :: insertMember key value rest

/-- The object whose members were written one after another: the last of several with one key
counts. -/
def ofMembers (members : List (String × Json)) : Json :=
  .obj (members.foldl (fun acc (k, v) => insertMember k v acc) [])

/-- The value under a key. -/
def member? (members : List (String × Json)) (key : String) : Option Json :=
  (members.find? fun m => m.1 == key).map (·.2)

def isObject : Json → Bool
  | obj _ => true
  | _ => false

/-- The smallest and the largest integer that text can denote. -/
def minInt : Int := -2 ^ 63
def maxInt : Int := 2 ^ 64 - 1

end Json

end EventFeed
