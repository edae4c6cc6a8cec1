/-!
# Why a text is no URL

The faults that reading a URL can end with. All other irregularities are repaired while reading.
-/

set_option autoImplicit false

namespace Vendoring.Url

/-- Why a text is no URL. -/
inductive Fault where
  /-- There is no scheme, so the text could only be read relative to another URL. -/
  | relative
  | emptyHost
  | invalidDomain
  | invalidHostCharacter
  | invalidPort
  | invalidIpv4
  | invalidIpv6
  deriving DecidableEq, Repr

/-- The words for a fault. -/
def Fault.message : Fault → String
  | relative => "relative URL without a base"
  | emptyHost => "empty host"
  | invalidDomain => "invalid international domain name"
  | invalidHostCharacter => "invalid domain character"
  | invalidPort => "invalid port number"
  | invalidIpv4 => "invalid IPv4 address"
  | invalidIpv6 => "invalid IPv6 address"

end Vendoring.Url
