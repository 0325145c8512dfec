/-!
# What can be wrong with a URL
-/
namespace UrlMask.Url

/-- The causes for which a text is no URL. -/
inductive Fault where
  | emptyHost
  | domainName
  | port
  | ipv4
  | ipv6
  | hostCharacter
  | noScheme
  deriving DecidableEq, Repr

def Fault.message : Fault → String
  | emptyHost => "empty host"
  | domainName => "invalid international domain name"
  | port => "invalid port number"
  | ipv4 => "invalid IPv4 address"
  | ipv6 => "invalid IPv6 address"
  | hostCharacter => "invalid domain character"
  | noScheme => "relative URL without a base"

end UrlMask.Url
