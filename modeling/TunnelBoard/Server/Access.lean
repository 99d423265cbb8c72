import TunnelBoard.Json.Reader
import TunnelBoard.Run
import TunnelBoard.Server.Content
import TunnelBoard.Server.Redirect
import TunnelBoard.Snapshot.Basic
import TunnelBoard.Text.Base64

/-!
# Access to a server

The server at an address is asked for its state, once, and its answer is read as
a snapshot.  Whatever stands in the way of a snapshot makes the server
unavailable; faults are left for addresses that are none, credentials that
cannot be written, and answers that are nested too deeply.

How deep is too deep, and how the log words what is wrong with a request or an
answer, is up to the runtime that the program runs in.
-/

namespace TunnelBoard
namespace Server

/-- What is wrong with a request or an answer. -/
inductive Obstacle where
  /-- The address of the request cannot be written. -/
  | unwritable (address : Text)
  /-- The host of the request has no name that can be sent. -/
  | unnamable (host : Text)
  /-- It cannot be told where the answer came from. -/
  | untraceable (url : Url)
  /-- The answer leads to a host that cannot be read. -/
  | astray (url : Url) (answer : Answer)
  /-- The body of the answer is not JSON. -/
  | malformed (body : Bytes)
deriving DecidableEq, Repr

/-- The runtime that the program runs in. -/
structure Runtime where
  /-- The deepest nesting of an answer that is read. -/
  nesting : Nat
  wording : Obstacle → Text

/-- How to reach a server. -/
structure Access where
  runtime : Runtime
  address : Text
  username : Text
  password : Text

def statePath : Text := "/api/serverinfo"

/-!
# Credentials
-/

def basic (username password : Text) : Text :=
  "Basic " ++ Base64.encode (username ++ ":" ++ password : Text).utf8

/-- The configured credentials; there are none without a name. -/
def Access.authorization (access : Access) : Except Fault (Option Text) :=
  if access.username.isEmpty then .ok none
  else
    match Charset.utf8.encode access.username, Charset.utf8.encode access.password with
    | .error run, _ => .error (.unencodable run)
    | _, .error run => .error (.unencodable run)
    | .ok _, .ok _ => .ok (some (basic access.username access.password))

/-- The credentials in an address. -/
def addressAuthorization (url : Url) : Option Text :=
  match url.credentials with
  | ([], []) => none
  | (name, password) => some (basic name password)

/-!
# Asking
-/

/-- What becomes of an attempt to get a snapshot. -/
inductive Outcome where
  /-- JSON that may be a snapshot. -/
  | payload (status : Int) (v : Value)
  /-- No answer, or one that is not a success. -/
  | failed (detail : Text)
  /-- An answer that is not JSON, or a request or an answer that cannot be read or written. -/
  | notJson (cause : Text)
  | fault (f : Fault)

/-- Whether an answer can be told where it came from, which its cookies need. -/
def canTrace (url : Url) : Bool :=
  !url.isRelative && (Url.Authority.flaw? url.authority).isNone

/-- What becomes of an answer whose body is not compressed. -/
def judge (runtime : Runtime) (url : Url) (answer : Answer) : Outcome :=
  if !canTrace url then .notJson (runtime.wording (.untraceable url))
  else
    match Redirect.refusal? url answer with
    | some (.location flaw) =>
        .failed ("Invalid URL in location header: " ++ flaw.message ++ ".")
    | some (.target flaw) => .fault (.invalidUrl flaw)
    | some .host => .notJson (runtime.wording (.astray url answer))
    | none =>
        if !Status.isSuccess answer.status then
          .failed (Status.complaint answer.status url.toText (Redirect.location? answer))
        else
          match Json.readBytes runtime.nesting answer.body with
          | .ok v => .payload answer.status v
          | .error .malformed => .notJson (runtime.wording (.malformed answer.body))
          | .error .tooDeep => .fault .nestedTooDeeply

/-- What becomes of the way a server behaves when it is asked. -/
def settle (runtime : Runtime) (url : Url) : Behavior → Outcome
  | .fails message => .failed message
  | .misused misuse message => .fault (.misused misuse message)
  | .garbled message => .notJson message
  | .answers answer =>
      match answer.uncompressed with
      | .error flaw => .failed flaw.message
      | .ok body => judge runtime url { answer with body }

/-- The address of a request; a relative one is a path alone. -/
def requestUrl (address : Text) : Except Url.Flaw Url := do
  let url ← Url.parse address
  if url.isRelative then url.rooted else pure url

/-- Whether a request can name the host that it is for. -/
def canName (host : Text) : Bool := host.isAscii && (Url.readHost? host).isSome

/-- Sends a request to an address and looks at the answer. -/
def ask (runtime : Runtime) (address : Text) (authorization : Option Text) (server : Behavior) :
    Run Outcome :=
  match requestUrl address with
  | .error .unwritable => pure (.notJson (runtime.wording (.unwritable address)))
  | .error flaw => pure (.fault (.invalidUrl flaw))
  | .ok url =>
      if !canName url.host then pure (.notJson (runtime.wording (.unnamable url.host)))
      else do
        Run.send ⟨"GET", url.toText, authorization <|> addressAuthorization url⟩
        pure (settle runtime url server)

def Access.stateAddress (access : Access) : Text :=
  access.address.dropWhileEnd (· = '/') ++ statePath

def Access.fetch (access : Access) (server : Behavior) : Run Snapshot := do
  Run.beginFetch
  let authorization ← Run.ofExcept access.authorization
  let address := access.stateAddress
  Run.log .info .server ("Fetching frps server info from " ++ address)
  match ← ask access.runtime address authorization server with
  | .fault f => Run.fail f
  | .failed detail => do
      Run.log .warning .server ("frps server info request failed: " ++ detail)
      Run.fail (.unavailable (.unreachable address detail))
  | .notJson cause => do
      Run.log .warning .server ("frps server info response is not JSON: " ++ cause)
      Run.fail (.unavailable (.notJson address))
  | .payload status (.map entries) => do
      Run.log .info .server ("frps server info: HTTP " ++ Text.ofInt status)
      pure (Snapshot.ofEntries entries)
  | .payload _ v => Run.fail (.unavailable (.notObject address v.kindName))

end Server
end TunnelBoard
