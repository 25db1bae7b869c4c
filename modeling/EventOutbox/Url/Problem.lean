/-!
# Refused URLs

Why a text is no absolute URL, in the words in which it is reported.
-/

namespace EventOutbox.Url

/-- Why a text is no absolute URL. -/
inductive Problem where
  | relative
  | emptyHost
  | portNumber
  | ipv4
  | ipv6
  | hostCharacter
  | hostName
deriving DecidableEq, Repr

/-- The wording of a problem. -/
def Problem.message : Problem → String
  | .relative => "relative URL without a base"
  | .emptyHost => "empty host"
  | .portNumber => "invalid port number"
  | .ipv4 => "invalid IPv4 address"
  | .ipv6 => "invalid IPv6 address"
  | .hostCharacter => "invalid domain character"
  | .hostName => "invalid international domain name"

end EventOutbox.Url
