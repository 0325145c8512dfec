import UrlMask.Url.Address
import UrlMask.Url.DomainName
import UrlMask.Url.Fault

/-!
# Hosts

The host of a URL is an address or a name. In the schemes of the web a name is a domain name, and
one that ends in a number is an address; in any other scheme a name is any text without the
characters that separate the parts of a URL.

* `Host.ofWeb`, `Host.ofOther`: the host that a text stands for.
* `Host.text`: how a host is written.
-/
namespace UrlMask.Url

/-- The host of a URL. -/
inductive Host where
  /-- A name; the empty one stands for no host. -/
  | name (text : List Char)
  | ipv4 (address : Nat)
  | ipv6 (pieces : List Nat)
  deriving DecidableEq, Repr

namespace Host

def none : Host := .name []

def text : Host → List Char
  | name s => s
  | ipv4 a => Ipv4.text a
  | ipv6 ps => '[' :: (Ipv6.text ps ++ [']'])

/-- An address in square brackets; the opening one has been read. -/
def ofBracketed (s : List Char) : Except Fault Host :=
  if s.getLast? = some ']' then
    match Ipv6.parse s.dropLast with
    | some ps => .ok (.ipv6 ps)
    | .none => .error .ipv6
  else .error .ipv6

/-- The host of a URL of the web. -/
def ofWeb (s : List Char) : Except Fault Host :=
  match s with
  | '[' :: r => ofBracketed r
  | _ =>
    match DomainName.toAscii (Utf8.decodeLossy (Percent.decode s)) with
    | .none => .error .domainName
    | some [] => .error .emptyHost
    | some d =>
      if Ipv4.isMeant d then
        match Ipv4.parse d with
        | some a => .ok (.ipv4 a)
        | .none => .error .ipv4
      else .ok (.name d)

/-- Characters that no host name holds, in any scheme. -/
def isSeparator (c : Char) : Bool := "\x00\t\n\r #/:<>?@[\\]^|".toList.contains c

/-- The host of a URL of a scheme that is not of the web. -/
def ofOther (s : List Char) : Except Fault Host :=
  match s with
  | '[' :: r => ofBracketed r
  | _ =>
    if s.any isSeparator then .error .hostCharacter
    else .ok (.name (Percent.encode Percent.EncodeSet.control s))

end Host

end UrlMask.Url
