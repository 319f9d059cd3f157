import EventFeed.Url.Host

/-! # URLs

Reading an absolute URL and writing it in its normal form. Blanks around the text and tabs and line
breaks inside it are ignored. For the special schemes, which have a host and a path of segments, the
whole URL is kept; of every other URL only the scheme is kept once it has been read without error.
-/

namespace EventFeed

structure Url where
  scheme : String
  /-- What follows the scheme and its colon. -/
  body : String
  deriving DecidableEq, Repr

namespace Url

def text (u : Url) : String := u.scheme ++ ":" ++ u.body

def defaultPort? : String → Option Nat
  | "http" | "ws" => some 80
  | "https" | "wss" => some 443
  | "ftp" => some 21
  | _ => none

/-- The schemes whose URLs always have a host. -/
def isSpecial (scheme : String) : Bool := (defaultPort? scheme).isSome

def isIgnored (c : Char) : Bool := c == '\t' || c == '\n' || c == '\r'

/-- The characters of a URL: control characters and blanks at the ends do not count, nor do tabs and
line breaks anywhere. -/
def significant (s : String) : List Char :=
  (((s.toList.dropWhile (· ≤ ' ')).reverse.dropWhile (· ≤ ' ')).reverse).filter (!isIgnored ·)

def isAlpha (c : Char) : Bool := ('a' ≤ c && c ≤ 'z') || ('A' ≤ c && c ≤ 'Z')

def isSchemeChar (c : Char) : Bool :=
  isAlpha c || Ipv4.isDigit c || c == '+' || c == '-' || c == '.'

/-- The scheme of a text, in lower case, and what follows its colon. -/
def splitScheme? (cs : List Char) : Option (String × List Char) :=
  if (cs.head?.map isAlpha).getD false then
    let name := cs.takeWhile isSchemeChar
    match cs.drop name.length with
    | ':' :: rest => some (String.ofList (name.map Char.toLower), rest)
    | _ => none
  else none

/-- Whether a character ends the authority of a URL. -/
def endsAuthority (special : Bool) (c : Char) : Bool :=
  c == '/' || c == '?' || c == '#' || (special && c == '\\')

/-- The user information before the last at-sign of the authority, and the text after it. -/
def splitUserinfo (special : Bool) (cs : List Char) : Option (List Char) × List Char :=
  let authority := cs.takeWhile (!endsAuthority special ·)
  let afterAt := (authority.reverse.takeWhile (· != '@')).reverse
  if afterAt.length = authority.length then (none, cs)
  else
    let info := authority.take (authority.length - afterAt.length - 1)
    (some info, cs.drop (info.length + 1))

/-- The user information in normal form, with its at-sign. -/
def userinfoText (info : List Char) : List Char :=
  let user := info.takeWhile (· != ':')
  let password := info.drop (user.length + 1)
  let encode := Percent.encode Percent.userinfo
  if user.isEmpty && password.isEmpty then []
  else if password.isEmpty then encode user ++ ['@']
  else encode user ++ ':' :: encode password ++ ['@']

/-- The host at the start of a text: up to a port, a path, a query or a fragment. A colon between
brackets belongs to the host. -/
def takeHost (special : Bool) : Bool → List Char → List Char
  | _, [] => []
  | inside, c :: rest =>
    if endsAuthority special c || (c == ':' && !inside) then []
    else
      let inside := if c == '[' then true else if c == ']' then false else inside
      c :: takeHost special inside rest

/-- The number of a port, unless it exceeds 65535. -/
def portNumber? (digits : List Char) : Option Nat :=
  digits.foldlM (fun n c =>
    let n := n * 10 + (c.toNat - '0'.toNat)
    if n < 65536 then some n else none) 0

/-- The port after a colon, when it is not the one that the scheme implies. -/
def parsePort (scheme : String) (cs : List Char) : Except UrlError (Option Nat × List Char) :=
  let digits := cs.takeWhile Ipv4.isDigit
  let rest := cs.drop digits.length
  match portNumber? digits with
  | none => .error .invalidPort
  | some n =>
    if (rest.head?.map fun c => !(c == '/' || c == '\\' || c == '?' || c == '#')).getD false then
      .error .invalidPort
    else if digits.isEmpty || defaultPort? scheme = some n then .ok (none, rest)
    else .ok (some n, rest)

/-- The authority in normal form, and the text after it. -/
def parseAuthority (scheme : String) (cs : List Char) :
    Except UrlError (List Char × List Char) := do
  let special := isSpecial scheme
  let (info, rest) := splitUserinfo special cs
  if info = some [] && (rest.head?.map (endsAuthority special)).getD false then
    throw .emptyHost
  let user := (info.map userinfoText).getD []
  let hostText := takeHost special false rest
  if special && hostText.isEmpty then throw .emptyHost
  let host ← if special then Host.parse hostText else Host.parseOpaque hostText
  let rest := rest.drop hostText.length
  match rest with
  | ':' :: portText =>
    if hostText.isEmpty then throw .emptyHost
    let (port, rest) ← parsePort scheme portText
    let port := match port with
      | some n => ':' :: Nat.toDigits 10 n
      | none => []
    return (user ++ host.text ++ port, rest)
  | _ =>
    if hostText.isEmpty && !user.isEmpty then throw .emptyHost
    return (user ++ host.text, rest)

def isSingleDot (segment : List Char) : Bool :=
  let s := segment.map Char.toLower
  s == ['.'] || s == ['%', '2', 'e']

def isDoubleDot (segment : List Char) : Bool :=
  match segment.map Char.toLower with
  | ['.', '.'] | ['%', '2', 'e', '.'] | ['.', '%', '2', 'e'] => true
  | ['%', '2', 'e', '%', '2', 'e'] => true
  | _ => false

/-- Whether a segment names a drive; such a segment is never gone above. -/
def isDrive : List Char → Bool
  | [c, d] => isAlpha c && (d == ':' || d == '|')
  | _ => false

/-- Drops the last directory, if it is not a drive. Directories come last first. -/
def goUp : List (List Char) → List (List Char)
  | [] => []
  | d :: ds => if isDrive d then d :: ds else ds

/-- Resolves the dots in the segments of a path. -/
def resolve : List (List Char) → List (List Char) → List (List Char)
  | dirs, [] => dirs.reverse
  | dirs, [last] =>
    if isDoubleDot last then ((goUp dirs).reverse) ++ [[]]
    else if isSingleDot last then dirs.reverse ++ [[]]
    else dirs.reverse ++ [last]
  | dirs, s :: rest =>
    if isDoubleDot s then resolve (goUp dirs) rest
    else if isSingleDot s then resolve dirs rest
    else resolve (s :: dirs) rest

def pathText (cs : List Char) : List Char :=
  let isSlash (c : Char) : Bool := c == '/' || c == '\\'
  let cs := match cs with
    | c :: rest => if isSlash c then rest else c :: rest
    | [] => []
  let segments := (splitOn isSlash cs).map (Percent.encode Percent.path)
  (resolve [] segments).flatMap ('/' :: ·)

/-- The query and the fragment in normal form, with their marks. -/
def tailText (cs : List Char) : List Char :=
  let beforeHash := cs.takeWhile (· != '#')
  let query := match beforeHash with
    | '?' :: q => '?' :: Percent.encode Percent.specialQuery q
    | _ => []
  let hash := match cs.drop beforeHash.length with
    | '#' :: f => '#' :: Percent.encode Percent.fragment f
    | _ => []
  query ++ hash

/-- A URL with a special scheme. -/
def parseSpecial (scheme : String) (cs : List Char) : Except UrlError Url := do
  let (authority, rest) ← parseAuthority scheme (cs.dropWhile fun c => c == '/' || c == '\\')
  let path := rest.takeWhile fun c => c != '?' && c != '#'
  let body := ['/', '/'] ++ authority ++ pathText path ++ tailText (rest.drop path.length)
  return ⟨scheme, String.ofList body⟩

/-- The host of a file URL must be a host. -/
def checkFile (cs : List Char) : Except UrlError Unit :=
  let isSlash (c : Char) : Bool := c == '/' || c == '\\'
  match cs with
  | a :: b :: rest =>
    if isSlash a && isSlash b then
      let host := rest.takeWhile (!endsAuthority true ·)
      if isDrive host || host.isEmpty then .ok () else (fun _ => ()) <$> Host.parse host
    else .ok ()
  | _ => .ok ()

def parse (s : String) : Except UrlError Url :=
  match splitScheme? (significant s) with
  | none => .error .relativeWithoutBase
  | some (scheme, rest) =>
    if isSpecial scheme then parseSpecial scheme rest
    else if scheme = "file" then do
      checkFile rest
      return ⟨scheme, String.ofList rest⟩
    else
      match rest with
      | '/' :: '/' :: authority => do
        let _ ← parseAuthority scheme authority
        return ⟨scheme, String.ofList rest⟩
      | _ => .ok ⟨scheme, String.ofList rest⟩

end Url

end EventFeed
