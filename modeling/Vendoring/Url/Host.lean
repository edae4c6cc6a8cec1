import Vendoring.Url.Address
import Vendoring.Url.Domain
import Vendoring.Url.Fault

/-!
# Hosts

The host of a URL with a special scheme is a domain name or an address; whatever ends in a number
is meant as an address. With any other scheme a host is kept as it is, an IPv6 address apart.
-/

set_option autoImplicit false

namespace Vendoring.Url

/-- A host as it is written in a URL. -/
abbrev HostText := List Char

/-- The host in brackets. -/
def bracketedHost (cs : List Char) : Except Fault HostText :=
  match cs.getLast? with
  | some ']' =>
    match ipv6? (cs.drop 1).dropLast with
    | some groups => .ok ('[' :: ipv6Chars groups ++ [']'])
    | none => .error .invalidIpv6
  | _ => .error .invalidIpv6

/-- The text that bytes stand for. -/
def textOfBytes? (bytes : List UInt8) : Option (List Char) :=
  (String.fromUTF8? bytes.toByteArray).map String.toList

/-- The domain name or address that a text in percent-encoding stands for. -/
def namedHost (cs : List Char) : Except Fault HostText :=
  match (textOfBytes? (percentDecode cs)).bind domain? with
  | none => .error .invalidDomain
  | some [] => .error .emptyHost
  | some name =>
    if endsInNumber name then
      match ipv4? name with
      | some n => .ok (ipv4Chars n)
      | none => .error .invalidIpv4
    else .ok name

/-- The host of a URL with a special scheme. -/
def specialHost (cs : List Char) : Except Fault HostText :=
  match cs with
  | [] => .error .emptyHost
  | '[' :: _ => bracketedHost cs
  | _ => namedHost cs

/-- Characters that no host may hold. -/
def isForbiddenInHost (c : Char) : Bool :=
  c = '\x00' || c = '\t' || c = '\n' || c = '\r' || c = ' ' || c = '#' || c = '/' || c = ':'
    || c = '<' || c = '>' || c = '?' || c = '@' || c = '[' || c = '\\' || c = ']' || c = '^'
    || c = '|'

/-- The host of a URL with another scheme, which can be empty. -/
def otherHost (cs : List Char) : Except Fault HostText :=
  match cs with
  | '[' :: _ => bracketedHost cs
  | _ =>
    if cs.any isForbiddenInHost then .error .invalidHostCharacter
    else .ok (percentEncode isControl cs)

end Vendoring.Url
