import EventFeed.Url.Percent
import EventFeed.Url.Domain.Basic

/-! # Hosts

The host of a URL is a domain name or an address. A name whose last label is a number is an IPv4
address in one of its short or long forms; an IPv6 address stands between brackets.
-/

namespace EventFeed.Url

inductive UrlError where
  | relativeWithoutBase
  | emptyHost
  | invalidPort
  | invalidIpv4
  | invalidIpv6
  | invalidDomain
  | invalidDomainCharacter
  deriving DecidableEq, Repr

def UrlError.message : UrlError → String
  | relativeWithoutBase => "relative URL without a base"
  | emptyHost => "empty host"
  | invalidPort => "invalid port number"
  | invalidIpv4 => "invalid IPv4 address"
  | invalidIpv6 => "invalid IPv6 address"
  | invalidDomain => "invalid international domain name"
  | invalidDomainCharacter => "invalid domain character"

inductive Host where
  | name (text : List Char)
  | ipv4 (address : Nat)
  | ipv6 (pieces : List Nat)
  deriving DecidableEq, Repr

namespace Ipv4

def isDigit (c : Char) : Bool := '0' ≤ c && c ≤ '9'

def value (radix : Nat) (cs : List Char) : Nat :=
  cs.foldl (fun n c => n * radix + (Percent.hexValue? c).getD 0) 0

/-- A number in the given radix, `none` inside when it exceeds 32 bits. -/
def numberIn (radix : Nat) (cs : List Char) : Option (Option Nat) :=
  if cs.isEmpty then some (some 0)
  else if cs.all fun c => ((Percent.hexValue? c).map fun d => decide (d < radix)).getD false then
    let n := value radix cs
    some (if n < 2 ^ 32 then some n else none)
  else none

/-- A part of an address: decimal, octal after a zero, hexadecimal after `0x`. -/
def number? : List Char → Option (Option Nat)
  | [] => none
  | '0' :: 'x' :: rest => numberIn 16 rest
  | '0' :: 'X' :: rest => numberIn 16 rest
  | '0' :: c :: rest => numberIn 8 (c :: rest)
  | cs => numberIn 10 cs

/-- Whether the last label, a trailing dot aside, is a number. -/
def endsInNumber (name : List Char) : Bool :=
  let isNumber (part : List Char) : Bool :=
    (!part.isEmpty && part.all isDigit) || (number? part).isSome
  match (splitOn (· == '.') name).reverse with
  | [] :: last :: _ => isNumber last
  | [] :: [] => false
  | last :: _ => isNumber last
  | [] => false

/-- The address of a dotted name. The last part fills all the bytes that are left. -/
def parse (name : List Char) : Except UrlError Nat :=
  let parts := splitOn (· == '.') name
  let parts := if parts.getLast? = some [] then parts.dropLast else parts
  if 4 < parts.length then .error .invalidIpv4
  else
    match parts.mapM fun p => (number? p).bind id with
    | none => .error .invalidIpv4
    | some numbers =>
      let init := numbers.dropLast
      let last := numbers.getLast?.getD 0
      if 256 ^ (4 - init.length) ≤ last || init.any (255 < ·) then .error .invalidIpv4
      else .ok (init.zipIdx.foldl (fun acc (n, i) => acc + n * 256 ^ (3 - i)) last)

def text (address : Nat) : List Char :=
  (".".intercalate ([3, 2, 1, 0].map fun i => toString (address / 256 ^ i % 256))).toList

end Ipv4

namespace Ipv6

def isHex (c : Char) : Bool := (Percent.hexValue? c).isSome

/-- A decimal number below 256 without a leading zero. -/
def byte? (cs : List Char) : Option Nat :=
  match cs with
  | [] => none
  | ['0'] => some 0
  | '0' :: _ => none
  | _ =>
    if cs.all Ipv4.isDigit && cs.length ≤ 3 && Ipv4.value 10 cs ≤ 255 then some (Ipv4.value 10 cs)
    else none

/-- The two pieces of an IPv4 address at the end. -/
def dotted? (cs : List Char) : Option (List Nat) :=
  match (splitOn (· == '.') cs).mapM byte? with
  | some [a, b, c, d] => some [a * 256 + b, c * 256 + d]
  | _ => none

/-- Reads pieces from left to right: those read so far, last first, and how many stood before the
gap. Each piece takes one unit of fuel. -/
def pieces? : Nat → List Nat → Option Nat → List Char → Option (List Nat × Option Nat)
  | 0, _, _, _ => none
  | _ + 1, acc, gap, [] => some (acc.reverse, gap)
  | fuel + 1, acc, gap, cs =>
    let width := acc.length + (if gap.isSome then 1 else 0)
    if width = 8 then none
    else
      match cs with
      | ':' :: rest => if gap.isSome then none else pieces? fuel acc (some acc.length) rest
      | _ =>
        let digits := (cs.take 4).takeWhile isHex
        match cs.drop digits.length with
        | [] => pieces? fuel (Ipv4.value 16 digits :: acc) gap []
        | '.' :: _ =>
          if digits.isEmpty || 6 < width then none
          else (dotted? cs).map fun tail => (acc.reverse ++ tail, gap)
        | ':' :: [] => none
        | ':' :: rest => pieces? fuel (Ipv4.value 16 digits :: acc) gap rest
        | _ => none

/-- The eight pieces of an address; a gap stands for as many zeros as are missing. -/
def parse (cs : List Char) : Except UrlError (List Nat) :=
  let start : Option (List Nat × Option Nat) :=
    match cs with
    | ':' :: ':' :: rest => pieces? (cs.length + 1) [] (some 0) rest
    | [] | [_] | ':' :: _ => none
    | _ => pieces? (cs.length + 1) [] none cs
  match start with
  | some (pieces, some gap) =>
    if pieces.length ≤ 8 then
      .ok (pieces.take gap ++ List.replicate (8 - pieces.length) 0 ++ pieces.drop gap)
    else .error .invalidIpv6
  | some (pieces, none) => if pieces.length = 8 then .ok pieces else .error .invalidIpv6
  | none => .error .invalidIpv6

/-- The length of the run of zeros at the start. -/
def zeroRun (pieces : List Nat) : Nat := (pieces.takeWhile (· == 0)).length

/-- Where the first of the longest runs of at least two zeros starts, and its length. -/
def longestRun (pieces : List Nat) : Option (Nat × Nat) :=
  (List.range pieces.length).foldl (fun best i =>
    let n := zeroRun (pieces.drop i)
    match best with
    | some (_, m) => if m < n then some (i, n) else best
    | none => if 2 ≤ n then some (i, n) else none) none

def hexText (pieces : List Nat) : List Char :=
  List.intercalate [':'] (pieces.map (Nat.toDigits 16))

/-- The pieces in hexadecimal, with the longest run of zeros left out. -/
def text (pieces : List Nat) : List Char :=
  match longestRun pieces with
  | some (start, n) =>
    hexText (pieces.take start) ++ [':', ':'] ++ hexText (pieces.drop (start + n))
  | none => hexText pieces

end Ipv6

namespace Host

def text : Host → List Char
  | name n => n
  | ipv4 a => Ipv4.text a
  | ipv6 pieces => '[' :: (Ipv6.text pieces ++ [']'])

def bracketed (cs : List Char) : Except UrlError Host :=
  if cs.getLast? = some ']' then ipv6 <$> Ipv6.parse (cs.drop 1).dropLast
  else .error .invalidIpv6

def parse (cs : List Char) : Except UrlError Host :=
  if cs.head? = some '[' then bracketed cs
  else
    match Domain.toAscii? (Percent.decode cs) with
    | none => .error .invalidDomain
    | some [] => .error .emptyHost
    | some ascii =>
      if Ipv4.endsInNumber ascii then ipv4 <$> Ipv4.parse ascii else .ok (name ascii)

/-- The characters that no other host may contain. -/
def isForbidden (c : Char) : Bool :=
  c == '\x00' || c == '\t' || c == '\n' || c == '\r' || c == ' ' || c == '#' || c == '/' || c == ':'
    || c == '<' || c == '>' || c == '?' || c == '@' || c == '[' || c == '\\' || c == ']' || c == '^'
    || c == '|'

def parseOpaque (cs : List Char) : Except UrlError Host :=
  if cs.head? = some '[' then bracketed cs
  else if cs.any isForbidden then .error .invalidDomainCharacter
  else .ok (name (Percent.encode Percent.isControl cs))

end Host

end EventFeed.Url
