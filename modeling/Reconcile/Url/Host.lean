import Reconcile.Net.Ip
import Reconcile.Url.Domain

namespace Reconcile

-- Why a text is no URL.
inductive UrlError where
  | relativeWithoutBase
  | emptyHost
  | invalidPort
  | invalidIpv4
  | invalidIpv6
  | invalidDomain
  | invalidDomainCharacter
deriving DecidableEq, Repr

def UrlError.message : UrlError → String
  | .relativeWithoutBase => "relative URL without a base"
  | .emptyHost => "empty host"
  | .invalidPort => "invalid port number"
  | .invalidIpv4 => "invalid IPv4 address"
  | .invalidIpv6 => "invalid IPv6 address"
  | .invalidDomain => "invalid international domain name"
  | .invalidDomainCharacter => "invalid domain character"

namespace Url

inductive Host where
  | name (text : String)
  | v4 (address : Nat)
  | v6 (pieces : List Nat)
deriving DecidableEq, Repr

def Host.text : Host → String
  | .name text => text
  | .v4 n =>
    Net.quadText [n / 16777216, n / 65536 % 256, n / 256 % 256, n % 256]
  | .v6 pieces => "[" ++ Net.Ipv6.text pieces ++ "]"

namespace Host

-- A part of an IPv4 address: decimal, octal after a zero, hexadecimal after `0x`.
def part? (cs : List Char) : Option Nat :=
  match cs with
  | [] => none
  | ['0', 'x'] | ['0', 'X'] => some 0
  | '0' :: 'x' :: digits | '0' :: 'X' :: digits => Text.ofDigits? 16 digits
  | '0' :: c :: digits => Text.ofDigits? 8 (c :: digits)
  | _ => Text.ofDigits? 10 cs

-- The parts of a host. A point at the end separates nothing.
def parts (cs : List Char) : List (List Char) :=
  let all := Text.split (· = '.') cs
  if 1 < all.length ∧ all.getLast? = some [] then all.dropLast else all

-- Such a host is an IPv4 address or nothing.
def endsInNumber (cs : List Char) : Bool :=
  match (parts cs).getLast? with
  | none | some [] => false
  | some last => last.all Text.isDigit || (part? last).isSome

-- The parts before the last are octets, the last one fills the rest of the address.
def address? (cs : List Char) : Option Nat := do
  let numbers ← (parts cs).mapM part?
  let last ← numbers.getLast?
  let front := numbers.dropLast
  if 3 < front.length ∨ front.any (255 < ·) ∨ Nat.pow 256 (4 - front.length) ≤ last then none
  else
    let high := front.zipIdx.foldl (fun sum (n, i) => sum + n * Nat.pow 256 (3 - i)) 0
    return high + last

-- An address in brackets.
def bracketed (cs : List Char) : Except UrlError Host :=
  match cs.getLast? with
  | some ']' =>
    match Net.Ipv6.parse? cs.dropLast with
    | some pieces => .ok (.v6 pieces)
    | none => .error .invalidIpv6
  | _ => .error .invalidIpv6

-- The host of a URL whose scheme is known.
def ofSpecial (cs : List Char) : Except UrlError Host :=
  match cs with
  | '[' :: rest => bracketed rest
  | _ =>
    match (textOfBytes? (unescape cs)).bind Domain.ascii? with
    | none => .error .invalidDomain
    | some [] => .error .emptyHost
    | some domain =>
      if endsInNumber domain then
        match address? domain with
        | some n => .ok (.v4 n)
        | none => .error .invalidIpv4
      else .ok (.name (String.ofList domain))

-- The host of any other URL is kept as it is written.
def ofOther (cs : List Char) : Except UrlError Host :=
  match cs with
  | '[' :: rest => bracketed rest
  | _ =>
    if cs.any fun c => c = '\x00' || "\t\n\r #/:<>?@[\\]^|".toList.contains c then
      .error .invalidDomainCharacter
    else .ok (.name (String.ofList (escape isControl cs)))

end Host
end Url
end Reconcile
