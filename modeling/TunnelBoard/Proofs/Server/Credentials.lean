import Mathlib.Data.List.Forall2
import TunnelBoard.Proofs.Server.Contact
import TunnelBoard.Proofs.Url.Users

/-!
# Credentials

The credentials of a server stand in one header of a request.  Two runs that only
differ in credentials have the same result and leave the same trace, apart from
that header.
-/

namespace TunnelBoard

/-- Two traces are the same but for what is sent, which is related one by one. -/
structure Trace.Alike (related : Server.Request → Server.Request → Prop) (a b : Trace) :
    Prop where
  fetches : a.fetches = b.fetches
  requests : List.Forall₂ related a.requests b.requests
  logs : a.logs = b.logs

theorem Trace.Alike.append {related : Server.Request → Server.Request → Prop} {a b c d : Trace}
    (h : a.Alike related b) (hnext : c.Alike related d) : (a ++ c).Alike related (b ++ d) := by
  constructor
  · rw [Trace.fetches_append, Trace.fetches_append, h.fetches, hnext.fetches]
  · exact List.rel_append h.requests hnext.requests
  · rw [Trace.logs_append, Trace.logs_append, h.logs, hnext.logs]

namespace Run

/-- Two runs are the same but for what they send, which is related one by one. -/
structure Alike {α : Type} (related : Server.Request → Server.Request → Prop) (r s : Run α) :
    Prop where
  result : r.result = s.result
  trace : r.trace.Alike related s.trace

section

variable {α β : Type} {related : Server.Request → Server.Request → Prop} {r s : Run α}

theorem IsQuiet.alike (h : r.IsQuiet) : r.Alike related r := by
  refine ⟨rfl, rfl, ?_, rfl⟩
  rw [h.requests]
  exact .nil

theorem alike_beginFetch : beginFetch.Alike related beginFetch := ⟨rfl, rfl, .nil, rfl⟩

theorem Alike.attempt (h : r.Alike related s) : r.attempt.Alike related s.attempt :=
  ⟨congrArg Except.ok h.result, h.trace⟩

theorem Alike.bind (h : r.Alike related s) {first second : α → Run β}
    (hnext : ∀ a, (first a).Alike related (second a)) :
    (r >>= first).Alike related (s >>= second) := by
  have hs := h.result
  cases hr : r.result with
  | error f =>
      rw [hr] at hs
      constructor
      · rw [result_bind_error hr, result_bind_error hs.symm]
      · rw [trace_bind_error hr, trace_bind_error hs.symm]
        exact h.trace
  | ok a =>
      rw [hr] at hs
      constructor
      · rw [result_bind_ok hr, result_bind_ok hs.symm, (hnext a).result]
      · rw [trace_bind_ok hr, trace_bind_ok hs.symm]
        exact h.trace.append (hnext a).trace

end

end Run

namespace Server

/-- A name and a password that can be written. -/
structure Credentials where
  name : Text
  password : Text
  isWritable_name : name.IsWritable
  isWritable_password : password.IsWritable

namespace Credentials

/-- The value of the header with the credentials; there is none without a name. -/
def header (c : Credentials) : Option Text :=
  if c.name = [] then none
  else some ("Basic " ++ Base64.encode (c.name ++ ":" ++ c.password : Text).utf8)

example :
    header ⟨"admin", "secret", Text.isWritable_ofString _, Text.isWritable_ofString _⟩ =
      some ("Basic YWRtaW46c2VjcmV0" : Text) := by
  decide +kernel

def access (c : Credentials) (runtime : Runtime) (address : Text) : Access :=
  ⟨runtime, address, c.name, c.password⟩

theorem authorization_access (c : Credentials) (runtime : Runtime) (address : Text) :
    (c.access runtime address).authorization = .ok c.header := by
  have hwritable : (c.name ++ c.password).IsWritable :=
    (Text.isWritable_append c.name c.password).mpr ⟨c.isWritable_name, c.isWritable_password⟩
  rcases (authorization_eq_ok_iff (c.access runtime address)).mpr (.inr hwritable) with
    ⟨header, h⟩
  rw [h]
  unfold Access.authorization at h
  unfold Credentials.header
  split at h
  · rename_i hname
    have hnil : c.name = [] := List.isEmpty_iff.mp hname
    cases h
    rw [if_pos hnil]
  · rename_i hname
    have hnil : ¬ c.name = [] := fun hnil => hname (List.isEmpty_iff.mpr hnil)
    rw [if_neg hnil]
    split at h
    · cases h
    · cases h
    · cases h
      rfl

end Credentials

/--
Two requests differ at most in the header with the credentials.  It has the given
values if there is no user in the address.
-/
structure Request.DifferInHeader (address : Text) (first second : Option Text) (a b : Request) :
    Prop where
  method : a.method = b.method
  target : a.address = b.address
  headers : (Url.split address).user = [] → a.authorization = first ∧ b.authorization = second

section

variable {address : Text} {a b : Access} {first second : Option Text}

theorem alike_ask (ha : a.address = address) (server : Behavior) :
    (ask a.runtime a.stateAddress first server).Alike
      (Request.DifferInHeader address first second)
      (ask a.runtime a.stateAddress second server) := by
  unfold ask
  cases hurl : requestUrl a.stateAddress with
  | error flaw => cases flaw <;> exact ⟨rfl, rfl, .nil, rfl⟩
  | ok url =>
      dsimp only
      cases canName url.host with
      | false => exact ⟨rfl, rfl, .nil, rfl⟩
      | true =>
          have hrequest : Request.DifferInHeader address first second
              ⟨"GET", url.toText, first <|> addressAuthorization url⟩
              ⟨"GET", url.toText, second <|> addressAuthorization url⟩ := by
            refine ⟨rfl, rfl, ?_⟩
            intro huser
            rw [← ha] at huser
            rw [addressAuthorization_of_requestUrl hurl huser]
            cases first <;> cases second <;> exact ⟨rfl, rfl⟩
          exact ⟨rfl, rfl, .cons hrequest .nil, rfl⟩

/-- Two fetches from one address in one runtime are alike, whatever the server does. -/
theorem alike_fetch (ha : a.address = address) (hb : b.address = address)
    (hruntime : a.runtime = b.runtime) (hfirst : a.authorization = .ok first)
    (hsecond : b.authorization = .ok second) (server : Behavior) :
    (a.fetch server).Alike (Request.DifferInHeader address first second) (b.fetch server) := by
  have hstate : b.stateAddress = a.stateAddress := by
    rw [Access.stateAddress, Access.stateAddress, ha, hb]
  unfold Access.fetch
  rw [hfirst, hsecond, hstate, ← hruntime]
  -- The values of the header differ from here on, so the runs are compared behind them.
  apply Run.alike_beginFetch.bind
  intro _
  change ((pure first : Run _) >>= _).Alike _ ((pure second : Run _) >>= _)
  rw [pure_bind, pure_bind]
  apply (Run.isQuiet_log _ _ _).alike.bind
  intro _
  apply (alike_ask ha server).bind
  intro outcome
  cases outcome with
  | payload status v => cases v <;> exact ⟨rfl, rfl, .nil, rfl⟩
  | failed detail => exact ⟨rfl, rfl, .nil, rfl⟩
  | notJson cause => exact ⟨rfl, rfl, .nil, rfl⟩
  | fault f => exact ⟨rfl, rfl, .nil, rfl⟩

end

end Server
end TunnelBoard
