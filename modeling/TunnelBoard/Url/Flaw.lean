import TunnelBoard.Text.Quoted

/-!
# Flaws of addresses

What makes a text useless as an address, and the wording of each flaw.
-/

namespace TunnelBoard
namespace Url

inductive Part where
  | scheme
  | authority
  | path
  | query
  | fragment
  | host
deriving DecidableEq, Repr

def Part.name : Part → Text
  | .scheme => "scheme"
  | .authority => "authority"
  | .path => "path"
  | .query => "query"
  | .fragment => "fragment"
  | .host => "host"

/-- Why a text is no address, or why parts make none. -/
inductive Flaw where
  | tooLong
  | partTooLong (part : Part)
  /-- An ASCII control character at a position of a part. -/
  | partControl (part : Part) (c : CodePoint) (position : Nat)
  /-- An ASCII control character at a position. -/
  | control (c : CodePoint) (position : Nat)
  | ipv4Host (host : Text)
  | ipv6Host (host : Text)
  | hostName (host : Text)
  | portNumber (shown : Text)
  /-- A path behind a host that does not start with a slash. -/
  | pathWithoutSlash
  /-- A path that starts with two slashes although there is no host. -/
  | pathLikeHost
  /-- A path that starts with a colon although there is no scheme. -/
  | pathLikeScheme
  /-- A code point that has no bytes. -/
  | unwritable
deriving DecidableEq, Repr

/-- What is said of a control character at a position of something. -/
def controlMessage (place : Text) (c : CodePoint) (position : Nat) : Text :=
  "Invalid non-printable ASCII character in " ++ place ++ ", " ++ Text.quoted [c]
    ++ " at position " ++ Text.ofNat position ++ "."

def Flaw.message : Flaw → Text
  | .tooLong => "URL too long"
  | .partTooLong part => "URL component '" ++ part.name ++ "' too long"
  | .partControl part c position =>
      controlMessage ("URL " ++ part.name ++ " component") c position
  | .control c position => controlMessage "URL" c position
  | .ipv4Host host => "Invalid IPv4 address: " ++ host.quoted
  | .ipv6Host host => "Invalid IPv6 address: " ++ host.quoted
  | .hostName host => "Invalid IDNA hostname: " ++ host.quoted
  | .portNumber shown => "Invalid port: " ++ shown.quoted
  | .pathWithoutSlash => "For absolute URLs, path must be empty or begin with '/'"
  | .pathLikeHost => "Relative URLs cannot have a path starting with '//'"
  | .pathLikeScheme => "Relative URLs cannot have a path starting with ':'"
  | .unwritable => "surrogates not allowed"

end Url
end TunnelBoard
