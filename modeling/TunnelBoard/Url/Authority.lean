import TunnelBoard.Text.Quoted
import TunnelBoard.Url.Host

/-!
# Authorities

An authority is what stands between two slashes and the path of an address.  A
strict reader wants its brackets to stand around the host and to hold an
address, and has no other ways to write the separators in it.
-/

namespace TunnelBoard
namespace Url

/-- Why a strict reader refuses an authority. -/
inductive AuthorityFlaw where
  /-- Brackets do not stand around the host. -/
  | brackets
  /-- A host between brackets, or beside them, is no address. -/
  | notAddress (host : Text)
  | ipv4InBrackets
  /-- A host between brackets is marked as an address to come, and is none. -/
  | futureAddress
  /-- A code point is another way to write a separator. -/
  | separator (authority : Text)
deriving DecidableEq, Repr

def AuthorityFlaw.message : AuthorityFlaw → Text
  | .brackets => "Invalid IPv6 URL"
  | .notAddress host => host.quoted ++ " does not appear to be an IPv4 or IPv6 address"
  | .ipv4InBrackets => "An IPv4 address cannot be in brackets"
  | .futureAddress => "IPvFuture address is invalid"
  | .separator authority =>
      "netloc '" ++ authority ++ "' contains invalid characters under NFKC normalization"

namespace Authority

/-- Whether a text is the letter v, hexadecimal digits, a dot, and something behind it. -/
def isFutureAddress (t : Text) : Bool :=
  match t.cut? '.' with
  | some (_ :: version, rest) =>
      !version.isEmpty && version.all (fun c => c.hexDigit?.isSome) && !rest.isEmpty
  | _ => false

/-- The flaw of a host between brackets. -/
def hostFlaw? (host : Text) : Option AuthorityFlaw :=
  if host.head? = some ('v' : CodePoint) then
    if isFutureAddress host then none else some .futureAddress
  else if isIpv4 host then some .ipv4InBrackets
  else if isIpv6 host then none
  else some (.notAddress host)

/-- The flaw of an authority with brackets of both kinds. -/
def bracketFlaw? (authority : Text) : Option AuthorityFlaw :=
  let place := (authority.cutLast? '@').elim authority (·.2)
  match place.cut? '[' with
  | none => hostFlaw? ((place.cut? ':').elim place (·.1))
  | some (before, inside) =>
      let (host, port) := (inside.cut? ']').getD (inside, [])
      let portFits := port.isEmpty || port.head? = some (':' : CodePoint)
      if before.isEmpty && portFits then hostFlaw? host else some .brackets

/-- The code points beyond ASCII that are other ways to write a separator. -/
def separators : List CodePoint :=
  [0x2047, 0x2048, 0x2049, 0x2100, 0x2101, 0x2105, 0x2106, 0x2A74, 0xFE13, 0xFE16, 0xFE55,
    0xFE56, 0xFE5F, 0xFE6B, 0xFF03, 0xFF0F, 0xFF1A, 0xFF1F, 0xFF20]

def flaw? (authority : Text) : Option AuthorityFlaw :=
  let opens := authority.contains '['
  let closes := authority.contains ']'
  let flaw :=
    if opens && closes then bracketFlaw? authority
    else if opens || closes then some .brackets
    else none
  let hasSeparator := authority.any fun c => separators.contains c
  flaw <|> if hasSeparator then some (.separator authority) else none

end Authority
end Url
end TunnelBoard
