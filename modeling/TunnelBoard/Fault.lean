import TunnelBoard.Server.Exchange
import TunnelBoard.Server.Unavailable
import TunnelBoard.Text.Charset
import TunnelBoard.Text.Quoted
import TunnelBoard.Url.Authority
import TunnelBoard.Url.Flaw

/-!
# Faults

Every reason for which the program gives something up, and its wording.
-/

namespace TunnelBoard

/-- Why an operation was given up. -/
inductive Fault where
  /-- The payload of a server is of a kind without entries. -/
  | payloadNotMapping (kind : Text)
  /-- The name of a chart style is of a kind that cannot be trimmed. -/
  | styleNotText (kind : Text)
  /-- The address of the server is of a kind that cannot be trimmed. -/
  | addressNotText (kind : Text)
  /-- The user name (0) or the password (1) is of a kind that has no bytes. -/
  | credentialNotText (position : Nat) (kind : Text)
  | unknownStyle (shown : Text)
  | unknownProxyType (shown : Text)
  | missingColors (names : List Text)
  | missingSecretKey
  /-- A text that is not the numeral of a floating point number. -/
  | notNumeral (shown : Text)
  /-- A value of a kind that no floating point number is made of. -/
  | notNumeric (kind : Text)
  | integerTooLarge
  | infiniteFloat
  | infiniteDecimal
  | quotientTooLarge
  /-- A decimal number with more digits than decimal arithmetic keeps. -/
  | tooManyDigits
  /-- A comparison with a value that must not be compared. -/
  | signaling
  | unavailable (cause : Server.Unavailable)
  | invalidUrl (flaw : Url.Flaw)
  | nestedTooDeeply
  /-- The client of a server was misused. -/
  | misused (misuse : Server.Misuse) (detail : Text)
  | unencodable (run : Unencodable)
  /-- The target of a request has an authority that cannot be read. -/
  | badTarget (flaw : Url.AuthorityFlaw)
  /-- A query has more fields than are allowed. -/
  | tooManyFields
  /-- A body was sent to a path that lacks its final slash. -/
  | lostBody (method target : Text)
  /-- A request for a host that the site does not answer for; its domain is empty if it has none. -/
  | unknownHost (host domain : Text)
  /-- A request is led to an address with more characters than are allowed. -/
  | longAddress (limit : Nat)
deriving DecidableEq, Repr

namespace Fault

/-- What is said of a value that has no member of some name. -/
def lacksMember (kind member : Text) : Text :=
  "'" ++ kind ++ "' object has no attribute '" ++ member ++ "'"

/-- What is said of an invalid operation on decimal numbers. -/
def invalidOperation : Text := "[<class 'decimal.InvalidOperation'>]"

/-- What is said of a domain that the site does not answer for. -/
def adviceOn (domain : Text) : Text :=
  if domain.isEmpty then " The domain name provided is not valid according to RFC 1034/1035."
  else " You may need to add " ++ domain.quoted ++ " to ALLOWED_HOSTS."

def message : Fault → Text
  | .payloadNotMapping kind => lacksMember kind "get"
  | .styleNotText kind => lacksMember kind "strip"
  | .addressNotText kind => lacksMember kind "rstrip"
  | .credentialNotText position kind =>
      "sequence item " ++ Text.ofNat position ++ ": expected a bytes-like object, " ++ kind
        ++ " found"
  | .unknownStyle shown =>
      "Unknown chart style " ++ shown ++ "; expected one of: plain, rich."
  | .unknownProxyType shown => shown ++ " is not a valid ProxyType"
  | .missingColors names =>
      "Missing slice colors for proxy types: " ++ Text.join ", " names ++ "."
  | .missingSecretKey => "DJANGO_SECRET_KEY is required when DJANGO_DEBUG is False."
  | .notNumeral shown => "could not convert string to float: " ++ shown
  | .notNumeric kind =>
      "float() argument must be a string or a real number, not '" ++ kind ++ "'"
  | .integerTooLarge => "int too large to convert to float"
  | .infiniteFloat => "cannot convert float infinity to integer"
  | .infiniteDecimal => "cannot convert Infinity to integer"
  | .quotientTooLarge => "integer division result too large for a float"
  | .tooManyDigits => invalidOperation
  | .signaling => invalidOperation
  | .unavailable cause => cause.message
  | .invalidUrl flaw => flaw.message
  | .nestedTooDeeply => []
  | .misused _ detail => detail
  | .unencodable run => run.message
  | .badTarget flaw => flaw.message
  | .tooManyFields =>
      "The number of GET/POST parameters exceeded settings.DATA_UPLOAD_MAX_NUMBER_FIELDS."
  | .lostBody method target =>
      "You called this URL via " ++ method ++ ", but the URL doesn't end in a slash and you "
        ++ "have APPEND_SLASH set. Django can't redirect to the slash URL while maintaining "
        ++ method ++ " data. Change your form to point to " ++ target
        ++ " (note the trailing slash), or set APPEND_SLASH=False in your Django settings."
  | .unknownHost host domain =>
      "Invalid HTTP_HOST header: " ++ host.quoted ++ "." ++ adviceOn domain
  | .longAddress limit => "Unsafe redirect exceeding " ++ Text.ofNat limit ++ " characters"

end Fault
end TunnelBoard
