import TunnelBoard.Text.Lower

/-!
# Hosts of requests

A request names the host that it is for, with or without a port.  The site
answers for a list of hosts: a pattern is a host, a domain with a dot in front,
which stands for the domain and whatever lies in it, or an asterisk for every
host.
-/

namespace TunnelBoard
namespace Site
namespace Host

/-- The code points of a host that is a name or four numbers. -/
def isNamePoint (c : CodePoint) : Bool :=
  (0x61 ≤ c.val && c.val ≤ 0x7A) || c.isAsciiDigit || c = '.' || c = '-'

/-- The hexadecimal digits with small letters. -/
def isHexPoint (c : CodePoint) : Bool := c.isAsciiDigit || (0x61 ≤ c.val && c.val ≤ 0x66)

/-- Whether a text is nothing, or a colon and digits. -/
def isPortSuffix : Text → Bool
  | [] => true
  | c :: digits => c = ':' && !digits.isEmpty && digits.all CodePoint.isAsciiDigit

/-- Whether a text can stand between the brackets of a host. -/
def isBracketed (t : Text) : Bool :=
  match t.cut? ':' with
  | none => false
  | some (before, after) =>
      before.all isHexPoint && !after.isEmpty
        && after.all fun c => isHexPoint c || c = '.' || c = ':'

/-- The domain in the text of a host in small letters, without its port. -/
def domainIn? (t : Text) : Option Text :=
  match t with
  | [] => none
  | c :: rest =>
      if c = '[' then
        match Text.cut? ']' rest with
        | none => none
        | some (inner, suffix) =>
            if isBracketed inner && isPortSuffix suffix then some ("[" ++ inner ++ "]") else none
      else
        let name := t.takeWhile isNamePoint
        if !name.isEmpty && isPortSuffix (t.dropWhile isNamePoint) then some name else none

/-- The domain of a host, without a dot at its end. -/
def domain? (host : Text) : Option Text :=
  (domainIn? host.lower).map fun domain =>
    if domain.getLast? = some ('.' : CodePoint) then domain.dropLast else domain

/-- Whether a pattern stands for a domain. -/
def accepts (pattern domain : Text) : Bool :=
  pattern = "*"
    || match pattern.lower with
       | [] => false
       | c :: rest =>
           (c = '.' && (domain.endsWith (c :: rest) || domain = rest)) || c :: rest = domain

def isAllowed (patterns : List Text) (host : Text) : Bool :=
  match domain? host with
  | none => false
  | some domain => !domain.isEmpty && patterns.any fun pattern => accepts pattern domain

end Host
end Site
end TunnelBoard
