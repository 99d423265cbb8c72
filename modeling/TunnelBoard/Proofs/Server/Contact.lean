import TunnelBoard.Proofs.Server.Fetching

/-!
# Contact with a server

A run has nothing to do with the server, or it fetches the state of the server
once.  A fetch sends at most one request, whatever the server does: redirects are
not followed, and nothing is tried again.
-/

namespace TunnelBoard

namespace Run

/-- What a run has to do with the server: how often it fetches its state and what it sends. -/
structure Touches {α : Type} (fetches : Nat) (requests : List Server.Request) (r : Run α) :
    Prop where
  fetches : r.trace.fetches = fetches
  requests : r.trace.requests = requests

abbrev IsQuiet {α : Type} (r : Run α) : Prop := r.Touches 0 []

/-- The state is fetched once, by means of a request or without one. -/
abbrev FetchesOnce {α : Type} (request : Option Server.Request) (r : Run α) : Prop :=
  r.Touches 1 request.toList

section

variable {α β : Type} {r : Run α} {next : α → Run β} {fetches : Nat}
  {requests : List Server.Request}

theorem isQuiet_pure (a : α) : (pure a : Run α).IsQuiet := ⟨rfl, rfl⟩

theorem isQuiet_fail (f : Fault) : (fail f : Run α).IsQuiet := ⟨rfl, rfl⟩

theorem isQuiet_ofExcept (result : Except Fault α) : (ofExcept result).IsQuiet := ⟨rfl, rfl⟩

theorem isQuiet_log (level : Log.Level) (source : Log.Source) (message : Text) :
    (log level source message).IsQuiet :=
  ⟨rfl, rfl⟩

theorem isQuiet_logAll (records : List Log.Record) : (logAll records).IsQuiet := ⟨rfl, rfl⟩

theorem Touches.attempt (h : r.Touches fetches requests) : r.attempt.Touches fetches requests :=
  ⟨h.fetches, h.requests⟩

/-- A second part that is quiet adds nothing, whether it is left out or not. -/
theorem Touches.bind_isQuiet (hr : r.Touches fetches requests) (hnext : ∀ a, (next a).IsQuiet) :
    (r >>= next).Touches fetches requests := by
  cases hresult : r.result with
  | error f =>
      constructor
      · rw [trace_bind_error hresult, hr.fetches]
      · rw [trace_bind_error hresult, hr.requests]
  | ok a =>
      constructor
      · rw [trace_bind_ok hresult, Trace.fetches_append, hr.fetches, (hnext a).fetches,
          Nat.add_zero]
      · rw [trace_bind_ok hresult, Trace.requests_append, hr.requests, (hnext a).requests,
          List.append_nil]

/-- A first part that is quiet and has a result adds nothing. -/
theorem IsQuiet.bind (hr : r.IsQuiet) {a : α} (hresult : r.result = .ok a)
    (hnext : (next a).Touches fetches requests) : (r >>= next).Touches fetches requests := by
  constructor
  · rw [trace_bind_ok hresult, Trace.fetches_append, hr.fetches, hnext.fetches, Nat.zero_add]
  · rw [trace_bind_ok hresult, Trace.requests_append, hr.requests, hnext.requests]
    rfl

theorem Touches.bind_error (hr : r.Touches fetches requests) {f : Fault}
    (hresult : r.result = .error f) : (r >>= next).Touches fetches requests :=
  ⟨by rw [trace_bind_error hresult, hr.fetches], by rw [trace_bind_error hresult, hr.requests]⟩

end

end Run

namespace Server

/-!
# The request of a fetch
-/

/-- The request that a fetch sends to an address, with the credentials that are given. -/
def Access.requestTo (header : Option Text) (url : Url) : Request :=
  { method := "GET"
    address := url.toText
    authorization := header <|> addressAuthorization url }

/-- The request that a fetch sends, if it gets as far as that. -/
def Access.request? (access : Access) : Option Request :=
  match access.authorization, requestUrl access.stateAddress with
  | .ok header, .ok url => if canName url.host then some (requestTo header url) else none
  | _, _ => none

theorem request?_eq_some_iff (access : Access) (request : Request) :
    access.request? = some request ↔
      ∃ header url, access.authorization = .ok header ∧
        requestUrl access.stateAddress = .ok url ∧ canName url.host = true ∧
          request = Access.requestTo header url := by
  unfold Access.request?
  cases access.authorization with
  | error f => simp
  | ok header =>
      cases requestUrl access.stateAddress with
      | error flaw => simp
      | ok url =>
          dsimp only
          split
          · rename_i hname
            constructor
            · intro h
              exact ⟨header, url, rfl, rfl, hname, (Option.some.inj h).symm⟩
            · intro h
              rcases h with ⟨_, _, hheader, hurl, _, hrequest⟩
              cases hheader
              cases hurl
              rw [hrequest]
          · rename_i hname
            constructor
            · intro h
              cases h
            · intro h
              rcases h with ⟨_, _, _, hurl, hother, _⟩
              cases hurl
              exact absurd hother hname

theorem touches_ask {access : Access} {header : Option Text}
    (hheader : access.authorization = .ok header) (server : Behavior) :
    (ask access.runtime access.stateAddress header server).Touches 0 access.request?.toList := by
  unfold ask Access.request?
  rw [hheader]
  cases requestUrl access.stateAddress with
  | error flaw => cases flaw <;> exact ⟨rfl, rfl⟩
  | ok url =>
      dsimp only
      cases canName url.host with
      | false => exact ⟨rfl, rfl⟩
      | true => exact ⟨rfl, rfl⟩

/-- Whatever the server does, a fetch sends the one request that it has to send. -/
theorem fetchesOnce_fetch (access : Access) (server : Behavior) :
    (access.fetch server).FetchesOnce access.request? := by
  unfold Access.fetch
  -- The fetch is counted before anything in it can fail.
  have hbegin : ∀ {next : Unit → Run Snapshot}, (next ()).Touches 0 access.request?.toList →
      (Run.beginFetch >>= next).FetchesOnce access.request? := by
    intro next h
    constructor
    · rw [Run.trace_bind_ok rfl, Trace.fetches_append, h.fetches]
      rfl
    · rw [Run.trace_bind_ok rfl, Trace.requests_append, h.requests]
      rfl
  apply hbegin
  cases hheader : access.authorization with
  | error f =>
      have hnone : access.request? = none := by
        rw [Access.request?, hheader]
      rw [hnone]
      exact (Run.isQuiet_ofExcept _).bind_error rfl
  | ok header =>
      apply (Run.isQuiet_ofExcept _).bind rfl
      apply (Run.isQuiet_log _ _ _).bind rfl
      apply (touches_ask hheader server).bind_isQuiet
      intro outcome
      cases outcome with
      | payload status v => cases v <;> exact ⟨rfl, rfl⟩
      | failed detail => exact ⟨rfl, rfl⟩
      | notJson cause => exact ⟨rfl, rfl⟩
      | fault f => exact ⟨rfl, rfl⟩

end Server
end TunnelBoard
