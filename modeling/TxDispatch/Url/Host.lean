import TxDispatch.IpAddress
import TxDispatch.Url.Domain
import TxDispatch.Url.Path

namespace TxDispatch

open Text

inductive UrlError where
  | relativeWithoutBase
  | emptyHost
  | invalidPort
  | invalidIpv4
  | invalidIpv6
  | invalidDomainCharacter
  | invalidInternationalDomain
  | relativeToFlat
deriving DecidableEq, Repr

def UrlError.message : UrlError → String
  | relativeWithoutBase => "relative URL without a base"
  | emptyHost => "empty host"
  | invalidPort => "invalid port number"
  | invalidIpv4 => "invalid IPv4 address"
  | invalidIpv6 => "invalid IPv6 address"
  | invalidDomainCharacter => "invalid domain character"
  | invalidInternationalDomain => "invalid international domain name"
  | relativeToFlat => "relative URL with a cannot-be-a-base base"

namespace Url

inductive Host where
  | domain (name : String)
  | v4 (address : Nat)
  | v6 (groups : List Nat)
deriving DecidableEq, Repr

namespace Host

def valueIn? (base : Nat) (cs : List Char) : Option Nat :=
  cs.foldlM (fun n c => do
    let d ← Hex.worth? c
    if d < base then some (base * n + d) else none) 0

/-- The value of a part of an IPv4 address: the start tells the base, and no digits after it are
zero. -/
def part? : List Char → Option Nat
  | [] => none
  | '0' :: 'x' :: ds => valueIn? 16 ds
  | '0' :: 'X' :: ds => valueIn? 16 ds
  | '0' :: ds => valueIn? 8 ds
  | ds => valueIn? 10 ds

def parts (name : List Char) : List (List Char) :=
  match (Domain.labels name).reverse with
  | [] :: rest => rest.reverse
  | _ => Domain.labels name

def endsInNumber (name : List Char) : Bool :=
  match (parts name).getLast? with
  | none => false
  | some last => (last ≠ [] && last.all Char.isDigit) || (part? last).isSome

/-- The address that parts stand for: the last one fills what the others leave. -/
def address? (parts : List (List Char)) : Option Nat := do
  let values ← parts.mapM part?
  let last ← values.getLast?
  let upper := values.dropLast
  if 4 < values.length || upper.any (255 < ·) || Nat.pow 256 (4 - upper.length) ≤ last then none
  else some (upper.zipIdx.foldl (fun n p => n + p.1 * Nat.pow 256 (3 - p.2)) last)

def bracketed (cs : List Char) : Except UrlError Host :=
  match cs.getLast? with
  | some ']' =>
    match IpAddress.address6 cs.tail.dropLast with
    | some (groups, []) => .ok (v6 groups)
    | _ => .error .invalidIpv6
  | _ => .error .invalidIpv6

def ofText (cs : List Char) : Except UrlError Host :=
  if cs.head? == some '[' then bracketed cs
  else match (Utf8.decode? (Percent.decode cs)).bind fun s => Domain.ofText? s.toList with
    | none => .error .invalidInternationalDomain
    | some [] => .error .emptyHost
    | some name =>
      if endsInNumber name then
        match address? (parts name) with
        | none => .error .invalidIpv4
        | some address => .ok (v4 address)
      else .ok (domain (String.ofList name))

def isForbidden (c : Char) : Bool := "\x00\t\n\r #/:<>?@[\\]^|".toList.contains c

def ofPlainText (cs : List Char) : Except UrlError Host :=
  if cs.head? == some '[' then bracketed cs
  else if cs.any isForbidden then .error .invalidDomainCharacter
  else .ok (domain (String.ofList (Percent.encode Percent.isControl cs)))

def isEmpty : Host → Bool
  | domain name => name.isEmpty
  | _ => false

def zeroRun (groups : List Nat) : Nat :=
  (List.range (groups.length + 1)).foldl (fun longest n =>
    if (List.range groups.length).any fun i =>
      n ≤ (groups.drop i).length && ((groups.drop i).take n).all (· == 0) then n else longest) 0

def groupText (n : Nat) : String := String.ofList (Quoted.hexDigits n)

/-- Groups with colons between them; the first of the longest runs of two or more zeros becomes a
double colon. -/
def groupsText (groups : List Nat) : String :=
  let n := zeroRun groups
  let join (gs : List Nat) : String := ":".intercalate (gs.map groupText)
  if n < 2 then join groups
  else
    let start := ((List.range groups.length).find? fun i =>
      ((groups.drop i).take n).length == n && ((groups.drop i).take n).all (· == 0)).getD 0
    join (groups.take start) ++ "::" ++ join (groups.drop (start + n))

def text : Host → String
  | domain name => name
  | v4 n => ".".intercalate ([24, 16, 8, 0].map fun shift => Digits.text (n >>> shift % 256))
  | v6 groups => "[" ++ groupsText groups ++ "]"

end Host

end Url

end TxDispatch
