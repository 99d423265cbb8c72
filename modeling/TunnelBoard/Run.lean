import TunnelBoard.Fault
import TunnelBoard.Log
import TunnelBoard.Server.Exchange

/-!
# Runs

A run ends with a result or a fault, and leaves a trace: how often the state of
the server was fetched, and what was sent to the server and what was logged, in
order.  Runs are put one after the other; the second one is left out if the first
one ends with a fault.
-/

namespace TunnelBoard

/-- What a run leaves behind. -/
structure Trace where
  /-- How often the state of the server was fetched; a fetch need not get as far as a request. -/
  fetches : Nat
  requests : List Server.Request
  logs : List Log.Record
deriving DecidableEq, Repr

namespace Trace

def empty : Trace := ⟨0, [], []⟩

def append (a b : Trace) : Trace :=
  ⟨a.fetches + b.fetches, a.requests ++ b.requests, a.logs ++ b.logs⟩

instance : Append Trace := ⟨append⟩

@[simp]
theorem fetches_append (a b : Trace) : (a ++ b).fetches = a.fetches + b.fetches := rfl

@[simp]
theorem requests_append (a b : Trace) : (a ++ b).requests = a.requests ++ b.requests := rfl

@[simp]
theorem logs_append (a b : Trace) : (a ++ b).logs = a.logs ++ b.logs := rfl

@[simp]
theorem append_empty (a : Trace) : a ++ empty = a := by
  cases a with
  | mk fetches requests logs =>
      show Trace.mk fetches (requests ++ []) (logs ++ []) = Trace.mk fetches requests logs
      rw [List.append_nil, List.append_nil]

@[simp]
theorem empty_append (a : Trace) : empty ++ a = a := by
  cases a with
  | mk fetches requests logs =>
      show Trace.mk (0 + fetches) requests logs = Trace.mk fetches requests logs
      rw [Nat.zero_add]

theorem append_assoc (a b c : Trace) : a ++ b ++ c = a ++ (b ++ c) := by
  show Trace.mk (a.fetches + b.fetches + c.fetches) (a.requests ++ b.requests ++ c.requests)
      (a.logs ++ b.logs ++ c.logs) =
    Trace.mk (a.fetches + (b.fetches + c.fetches)) (a.requests ++ (b.requests ++ c.requests))
      (a.logs ++ (b.logs ++ c.logs))
  rw [Nat.add_assoc, List.append_assoc, List.append_assoc]

end Trace

/-- A result or a fault, with a trace. -/
structure Run (α : Type) where
  result : Except Fault α
  trace : Trace

namespace Run

/-- The run of a result without a trace. -/
def done {α : Type} (a : α) : Run α := ⟨.ok a, .empty⟩

/-- A run, followed by another one that depends on its result. -/
def andThen {α β : Type} (r : Run α) (next : α → Run β) : Run β :=
  match r.result with
  | .error f => ⟨.error f, r.trace⟩
  | .ok a => ⟨(next a).result, r.trace ++ (next a).trace⟩

instance : Monad Run where
  pure := done
  bind := andThen

def fail {α : Type} (f : Fault) : Run α := ⟨.error f, .empty⟩

def ofExcept {α : Type} (r : Except Fault α) : Run α := ⟨r, .empty⟩

/-- Notes that a fetch of the state of the server begins. -/
def beginFetch : Run Unit := ⟨.ok (), ⟨1, [], []⟩⟩

def send (request : Server.Request) : Run Unit := ⟨.ok (), ⟨0, [request], []⟩⟩

def log (level : Log.Level) (source : Log.Source) (message : Text) : Run Unit :=
  ⟨.ok (), ⟨0, [], [⟨level, source, message⟩]⟩⟩

def logAll (records : List Log.Record) : Run Unit := ⟨.ok (), ⟨0, [], records⟩⟩

/-- Turns a fault into a result. -/
def attempt {α : Type} (r : Run α) : Run (Except Fault α) := ⟨.ok r.result, r.trace⟩

/-!
# Laws

Runs can be regrouped, and a run of a result changes nothing.
-/

theorem done_andThen {α β : Type} (a : α) (next : α → Run β) : (done a).andThen next = next a := by
  show Run.mk (next a).result (Trace.empty ++ (next a).trace) = next a
  rw [Trace.empty_append]

theorem andThen_done {α : Type} (r : Run α) : r.andThen done = r := by
  cases r with
  | mk result trace =>
      cases result with
      | error f => rfl
      | ok a =>
          show Run.mk (.ok a) (trace ++ Trace.empty) = Run.mk (.ok a) trace
          rw [Trace.append_empty]

theorem andThen_assoc {α β γ : Type} (r : Run α) (next : α → Run β) (last : β → Run γ) :
    (r.andThen next).andThen last = r.andThen fun a => (next a).andThen last := by
  cases r with
  | mk result trace =>
      cases result with
      | error f => rfl
      | ok a =>
          show Run.andThen ⟨(next a).result, trace ++ (next a).trace⟩ last =
            ⟨((next a).andThen last).result, trace ++ ((next a).andThen last).trace⟩
          cases h : (next a).result with
          | error f => simp [andThen, h]
          | ok b => simp [andThen, h, Trace.append_assoc]

instance : LawfulMonad Run :=
  LawfulMonad.mk' Run (fun r => andThen_done r) (fun a next => done_andThen a next)
    (fun r next last => andThen_assoc r next last)

/-!
# Results

The result of a run of two parts is that of the second part, unless the first
part ends with a fault.  Sending and logging have no influence on it.
-/

@[simp]
theorem result_pure {α : Type} (a : α) : (pure a : Run α).result = .ok a := rfl

@[simp]
theorem result_fail {α : Type} (f : Fault) : (fail f : Run α).result = .error f := rfl

@[simp]
theorem result_ofExcept {α : Type} (r : Except Fault α) : (ofExcept r).result = r := rfl

@[simp]
theorem result_attempt {α : Type} (r : Run α) : r.attempt.result = .ok r.result := rfl

theorem result_bind {α β : Type} (r : Run α) (next : α → Run β) :
    (r >>= next).result = r.result.bind fun a => (next a).result := by
  show (r.andThen next).result = _
  rw [andThen]
  cases r.result <;> rfl

theorem result_bind_ok {α β : Type} {r : Run α} {a : α} (h : r.result = .ok a)
    (next : α → Run β) : (r >>= next).result = (next a).result := by
  rw [result_bind, h]
  rfl

theorem result_bind_error {α β : Type} {r : Run α} {f : Fault} (h : r.result = .error f)
    (next : α → Run β) : (r >>= next).result = .error f := by
  rw [result_bind, h]
  rfl

theorem result_bind_eq_ok {α β : Type} {r : Run α} {next : α → Run β} {b : β}
    (h : (r >>= next).result = .ok b) : ∃ a, r.result = .ok a ∧ (next a).result = .ok b := by
  rw [result_bind] at h
  cases hr : r.result with
  | error f =>
      rw [hr] at h
      cases h
  | ok a =>
      rw [hr] at h
      exact ⟨a, rfl, h⟩

@[simp]
theorem result_log_bind {β : Type} (level : Log.Level) (source : Log.Source) (message : Text)
    (next : Unit → Run β) : (log level source message >>= next).result = (next ()).result := rfl

@[simp]
theorem result_logAll_bind {β : Type} (records : List Log.Record) (next : Unit → Run β) :
    (logAll records >>= next).result = (next ()).result := rfl

@[simp]
theorem result_beginFetch_bind {β : Type} (next : Unit → Run β) :
    (beginFetch >>= next).result = (next ()).result := rfl

@[simp]
theorem result_send_bind {β : Type} (request : Server.Request) (next : Unit → Run β) :
    (send request >>= next).result = (next ()).result := rfl

/-!
# Traces

What a run of two parts leaves behind is what its parts leave behind, in order.
-/

theorem trace_bind_ok {α β : Type} {r : Run α} {a : α} (h : r.result = .ok a)
    (next : α → Run β) : (r >>= next).trace = r.trace ++ (next a).trace := by
  show (r.andThen next).trace = _
  rw [andThen, h]

theorem trace_bind_error {α β : Type} {r : Run α} {f : Fault} (h : r.result = .error f)
    (next : α → Run β) : (r >>= next).trace = r.trace := by
  show (r.andThen next).trace = _
  rw [andThen, h]

end Run
end TunnelBoard
