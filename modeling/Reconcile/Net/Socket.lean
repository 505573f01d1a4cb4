import Reconcile.Net.Ip
import Reconcile.Word

namespace Reconcile.Net

-- An address to listen on.
structure Socket where
  host : List Nat
  v6 : Bool
  zone : Option Nat
  port : Nat
deriving DecidableEq, Repr

namespace Socket

-- A decimal number of any length below a limit.
def number? (limit : Nat) (digits : List Char) : Option Nat :=
  if digits.isEmpty ∨ digits.all Text.isDigit = false then none
  else (Text.ofDigits? 10 digits).filter (· < limit)

def port? (cs : List Char) : Option Nat := number? Word.count16 cs

-- An address in brackets may name a zone by its number.
def inBrackets? (cs : List Char) : Option (List Nat × Option Nat) :=
  match Text.cut (· = '%') cs with
  | (host, none) => (Ipv6.parse? host).map (·, none)
  | (host, some zone) => do
    let pieces ← Ipv6.parse? host
    let number ← number? Word.count32 zone
    return (pieces, some number)

-- Four octets or an address in brackets, and a port.
def parse? (text : String) : Option Socket :=
  match text.toList with
  | '[' :: rest =>
    match Text.cut (· = ']') rest with
    | (inside, some (':' :: port)) => do
      let (host, zone) ← inBrackets? inside
      let port ← port? port
      return ⟨host, true, zone, port⟩
    | _ => none
  | cs =>
    match Text.cut (· = ':') cs with
    | (host, some port) => do
      let octets ← quad? host
      let port ← port? port
      return ⟨octets, false, none, port⟩
    | _ => none

end Socket
end Reconcile.Net
