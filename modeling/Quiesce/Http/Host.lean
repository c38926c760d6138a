import Quiesce.Domain.Name
import Quiesce.Http.Address
import Quiesce.Http.PercentEncoding

/-!
# Hosts

The host of a URL in the one form that a request names it by: a domain name in ASCII, an IPv4
address as four decimal numbers, or an IPv6 address in brackets with its longest run of zeros left
out. Outside the web a host that is no IPv6 address has no structure.

* `Host.normalize` and `Host.opaqueText` find that form or say why there is none.
-/

namespace Quiesce.Http

/-- Why a text is not a URL that a request can be sent to. -/
inductive UrlError where
  | relative
  | emptyHost
  | badDomain
  | badCharacter
  | badIpv4
  | badIpv6
  | badPort
deriving DecidableEq, Repr

def UrlError.message : UrlError → String
  | .relative => "relative URL without a base"
  | .emptyHost => "empty host"
  | .badDomain => "invalid international domain name"
  | .badCharacter => "invalid domain character"
  | .badIpv4 => "invalid IPv4 address"
  | .badIpv6 => "invalid IPv6 address"
  | .badPort => "invalid port number"

namespace Host

/-- The text of an IPv6 address in brackets, the first of which has been taken away. -/
def bracketed (cs : List Char) : Except UrlError String :=
  match cs.reverse with
  | ']' :: inner =>
    match ipv6? inner.reverse with
    | some groups => .ok (String.ofList ('[' :: ipv6Text groups ++ [']']))
    | none => .error .badIpv6
  | _ => .error .badIpv6

/-- The host that a domain name stands for, which is an address if it ends in a number. -/
def ofDomain (domain : List Char) : Except UrlError String :=
  if domain.isEmpty then .error .emptyHost
  else if endsInNumber domain then
    match ipv4? domain with
    | some address => .ok (String.ofList address)
    | none => .error .badIpv4
  else .ok (String.ofList domain)

/-- The host of a web URL in its one form. -/
def normalize (cs : List Char) : Except UrlError String :=
  match cs with
  | '[' :: rest => bracketed rest
  | _ =>
    match (percentDecode cs).bind fun decoded => Domain.toAscii? decoded.toList with
    | some domain => ofDomain domain
    | none => .error .badDomain

/-- What a host outside the web may not hold. -/
def isBarred (c : Char) : Bool :=
  c.toNat = 0 || c = ' ' || c = '#' || c = '/' || c = ':' || c = '<' || c = '>' || c = '?' ||
    c = '@' || c = '[' || c = '\\' || c = ']' || c = '^' || c = '|'

/-- The host of a URL outside the web; it may be empty. -/
def opaqueText (cs : List Char) : Except UrlError String :=
  match cs with
  | '[' :: rest => bracketed rest
  | _ =>
    if cs.any isBarred then .error .badCharacter
    else .ok (String.ofList (percentEncode isControl cs))

end Host

end Quiesce.Http
