/-
**Hosts.**

The host of a web URL is an address or a domain name: its percent-encoded bytes are decoded, and a
domain name is brought into its registered form.  The host of any other URL stays as it is, apart
from percent-encoding.

Main definitions:

* `Url.ReadError` — why a text is no URL;
* `Url.Host.ofWeb`, `Url.Host.ofOther` — **the written form** of a host.
-/

import Provisioning.Url.Address
import Provisioning.Url.Domain

set_option autoImplicit false
set_option relaxedAutoImplicit false

namespace Provisioning.Url

/-- Why a text is no URL. -/
inductive ReadError where
  | relativeWithoutBase
  | emptyHost
  | invalidPort
  | invalidDomainName
  | invalidIpv4Address
  | invalidIpv6Address
  | invalidDomainCharacter
  deriving DecidableEq, Repr

/-- The text of an error. -/
def ReadError.message : ReadError → String
  | .relativeWithoutBase => "relative URL without a base"
  | .emptyHost => "empty host"
  | .invalidPort => "invalid port number"
  | .invalidDomainName => "invalid international domain name"
  | .invalidIpv4Address => "invalid IPv4 address"
  | .invalidIpv6Address => "invalid IPv6 address"
  | .invalidDomainCharacter => "invalid domain character"

namespace Host

/-- The written form of an address in square brackets, behind the opening one. -/
def bracketed (text : List Char) : Except ReadError (List Char) :=
  if text.getLast? = some ']' then
    match Address.v6? text.dropLast with
    | some groups => .ok ('[' :: Address.v6Text groups ++ [']'])
    | none => .error .invalidIpv6Address
  else .error .invalidIpv6Address

/-- **The written form** of the host of a web URL. -/
def ofWeb : List Char → Except ReadError (List Char)
  | '[' :: rest => bracketed rest
  | text =>
    match (Utf8.decode? (Percent.decode text)).bind Domain.registered? with
    | none => .error .invalidDomainName
    | some [] => .error .emptyHost
    | some name =>
      if Address.endsInNumber name then
        match Address.v4? name with
        | some address => .ok (Address.v4Text address)
        | none => .error .invalidIpv4Address
      else .ok name

/-- The characters that no host of another URL has. -/
def isForbidden (c : Char) : Bool := "\x00\t\n\r #/:<>?@[\\]^|".toList.contains c

/-- The written form of the host of another URL. -/
def ofOther : List Char → Except ReadError (List Char)
  | '[' :: rest => bracketed rest
  | text =>
    if text.any isForbidden then .error .invalidDomainCharacter
    else .ok (Percent.encode inAnyPart text)

end Host

end Provisioning.Url
