import TunnelBoard.Server.Exchange
import TunnelBoard.Server.Status
import TunnelBoard.Url.Authority
import TunnelBoard.Url.Reference

/-!
# Redirects

Some answers lead to another address.  Redirects are not followed, but the
address of one is worked out, and an answer whose redirect leads nowhere is
refused.
-/

namespace TunnelBoard
namespace Server

/-- Why the address that an answer leads to is refused. -/
inductive Refusal where
  /-- The text in the answer is no address. -/
  | location (flaw : Url.Flaw)
  /-- The text is an address, but what it leads to is none. -/
  | target (flaw : Url.Flaw)
  | host
deriving DecidableEq, Repr

namespace Redirect

/-- A result, with its flaw as a refusal. -/
def orRefuse {α : Type} (refusal : Url.Flaw → Refusal) (r : Except Url.Flaw α) :
    Except Refusal α :=
  r.mapError refusal

/-- The host of an address as it is read. -/
def readHost (url : Url) : Except Refusal Text :=
  match Url.readHost? url.host with
  | some host => .ok host
  | none => .error .host

/-- The address with the host of the address that was asked, if it has a scheme and no host. -/
def withHost (asked url : Url) : Except Refusal Url := do
  if url.scheme.isEmpty then pure url
  else if (← readHost url).isEmpty then
    orRefuse .target (url.withHost (← readHost asked))
  else pure url

/-- The address that a reference leads to from the address that was asked. -/
def resolved (asked url : Url) : Except Refusal Url :=
  if !url.isRelative then .ok url
  else if (Url.Authority.flaw? url.authority).isSome then .error .host
  else orRefuse .target (asked.resolve url)

/-- The address with the fragment of the address that was asked, if it has none. -/
def withFragment (asked url : Url) : Except Refusal Url :=
  match Url.given? asked.fragment, Url.given? url.fragment with
  | some fragment, none => orRefuse .target (url.withFragment (Percent.decode fragment))
  | _, _ => .ok url

/-- The address that a text leads to from the address that was asked. -/
def target (asked : Url) (location : Text) : Except Refusal Url := do
  let url ← orRefuse .location (Url.parse location)
  let url ← withHost asked url
  let url ← resolved asked url
  let url ← withFragment asked url
  let _ ← readHost url
  pure url

/-- The text of the address that an answer leads to. -/
def location? (answer : Answer) : Option Text :=
  if Status.isRedirect answer.status then answer.header? "Location" else none

/-- Why the redirect of an answer is refused, if it is. -/
def refusal? (asked : Url) (answer : Answer) : Option Refusal :=
  match (location? answer).map (target asked) with
  | some (.error refusal) => some refusal
  | _ => none

end Redirect
end Server
end TunnelBoard
