/-!
Why a text is no address, and why a host cannot be put into one.
-/
namespace Callout.Url

/-- Why a text is no address. -/
inductive Error where
  | emptyHost
  /-- A host name that no domain may have. -/
  | invalidDomain
  | invalidPort
  | invalidIpv4
  | invalidIpv6
  /-- A character in an opaque host that none may have. -/
  | invalidHostCharacter
  /-- There is no scheme, and no address to start from. -/
  | relativeWithoutBase
  /-- The address has no place for a host. -/
  | hostNotAllowed
deriving DecidableEq, Repr, Inhabited

/-- What a message says of the error. -/
def Error.message : Error → String
  | .emptyHost => "empty host"
  | .invalidDomain => "invalid international domain name"
  | .invalidPort => "invalid port number"
  | .invalidIpv4 => "invalid IPv4 address"
  | .invalidIpv6 => "invalid IPv6 address"
  | .invalidHostCharacter => "invalid domain character"
  | .relativeWithoutBase => "relative URL without a base"
  | .hostNotAllowed => "a cannot-be-a-base URL doesn’t have a host to set"

end Callout.Url
