import TunnelBoard.Proofs.Site.Charts

/-!
# Records

A run that picks something may log records before it does, and they stand in front
of all that is logged later.

The server and the charts write their records under names of their own, so the
records of the pages can be told from theirs.
-/

namespace TunnelBoard

namespace Run

/-- A run has a result, and leaves behind certain records. -/
structure Picks {α : Type} (run : Run α) (a : α) (records : List Log.Record) : Prop where
  result : run.result = .ok a
  logs : run.trace.logs = records

/-- All records of a run have a property. -/
structure LogsOnly {α : Type} (property : Log.Record → Prop) (run : Run α) : Prop where
  logs : ∀ record ∈ run.trace.logs, property record

section

variable {α β : Type} {run : Run α} {next : α → Run β} {a : α} {b : β}
  {records others : List Log.Record} {property : Log.Record → Prop}

theorem Picks.bind (h : run.Picks a records) (hnext : (next a).Picks b others) :
    (run >>= next).Picks b (records ++ others) := by
  constructor
  · rw [result_bind_ok h.result, hnext.result]
  · rw [trace_bind_ok h.result, Trace.logs_append, h.logs, hnext.logs]

theorem picks_pure (a : α) : (pure a : Run α).Picks a [] := ⟨rfl, rfl⟩

theorem logsOnly_of_nil (h : run.trace.logs = []) : run.LogsOnly property := by
  constructor
  rw [h]
  exact List.forall_mem_nil property

theorem LogsOnly.bind (h : run.LogsOnly property) (hnext : ∀ a, (next a).LogsOnly property) :
    (run >>= next).LogsOnly property := by
  constructor
  cases hresult : run.result with
  | error f =>
      rw [trace_bind_error hresult]
      exact h.logs
  | ok a =>
      rw [trace_bind_ok hresult, Trace.logs_append]
      exact List.forall_mem_append.mpr ⟨h.logs, (hnext a).logs⟩

theorem LogsOnly.attempt (h : run.LogsOnly property) : run.attempt.LogsOnly property := ⟨h.logs⟩

theorem LogsOnly.imp {other : Log.Record → Prop} (h : run.LogsOnly property)
    (himp : ∀ record, property record → other record) : run.LogsOnly other :=
  ⟨fun record hrecord => himp record (h.logs record hrecord)⟩

/-- What a run logs before it picks something stands before anything that is logged later. -/
theorem Picks.exists_logs (h : run.Picks a records) (hnext : (next a).LogsOnly property) :
    ∃ rest, (run >>= next).trace.logs = records ++ rest ∧ ∀ record ∈ rest, property record := by
  refine ⟨(next a).trace.logs, ?_, hnext.logs⟩
  rw [trace_bind_ok h.result, Trace.logs_append, h.logs]

end

end Run

namespace Site

/-!
# Records of the state and the charts
-/

theorem logsOnly_fetch (access : Server.Access) (server : Server.Behavior) :
    (access.fetch server).LogsOnly fun record => record.source = .server := by
  have hlog : ∀ level message, (Run.log level .server message).LogsOnly fun record =>
      record.source = .server := fun level message => ⟨List.forall_mem_singleton.mpr rfl⟩
  have hfail : ∀ f : Fault, (Run.fail f : Run Snapshot).LogsOnly fun record =>
      record.source = .server := fun f => Run.logsOnly_of_nil rfl
  unfold Server.Access.fetch
  apply (Run.logsOnly_of_nil rfl).bind
  intro _
  apply (Run.logsOnly_of_nil rfl).bind
  intro authorization
  apply (hlog _ _).bind
  intro _
  have hask : (Server.ask access.runtime access.stateAddress authorization server).trace.logs =
      [] := by
    unfold Server.ask
    split
    · rfl
    · rfl
    · split <;> rfl
  apply (Run.logsOnly_of_nil hask).bind
  intro outcome
  cases outcome with
  | fault f => exact hfail f
  | failed detail => exact (hlog _ _).bind fun _ => hfail _
  | notJson cause => exact (hlog _ _).bind fun _ => hfail _
  | payload status v =>
      cases v with
      | map entries => exact (hlog _ _).bind fun _ => Run.logsOnly_of_nil rfl
      | _ => exact hfail _

theorem logsOnly_tryFetch (config : Config) (server : Server.Behavior) :
    (tryFetch config server).LogsOnly fun record => record.source ≠ .pages := by
  have hfetch : (fetch config server).LogsOnly fun record => record.source ≠ .pages := by
    apply (Run.logsOnly_of_nil rfl).bind
    intro access
    apply (logsOnly_fetch access server).imp
    intro record hserver
    rw [hserver]
    exact nofun
  apply hfetch.attempt.bind
  intro result
  cases result with
  | ok s => exact Run.logsOnly_of_nil rfl
  | error f => cases f <;> exact Run.logsOnly_of_nil rfl

theorem logsOnly_shownState (config : Config) (server : Server.Behavior) :
    (shownState config server).LogsOnly fun record => record.source ≠ .pages := by
  apply (logsOnly_tryFetch config server).bind
  intro result
  cases result <;> exact Run.logsOnly_of_nil rfl

theorem source_clampRecords (direction : Chart.Direction) (v : Value) :
    ∀ record ∈ Chart.clampRecords direction v, record.source ≠ .pages := by
  unfold Chart.clampRecords
  dsimp only
  split
  · exact List.forall_mem_nil _
  · exact List.forall_mem_singleton.mpr nofun

theorem source_strangerRecords (counts : Counts) :
    ∀ record ∈ Chart.strangerRecords counts, record.source ≠ .pages := by
  unfold Chart.strangerRecords
  split
  · exact List.forall_mem_nil _
  · exact List.forall_mem_singleton.mpr nofun

theorem logsOnly_chartsJson (s : Snapshot) (textColor : Text) (style : Style) :
    (chartsJson s textColor style).LogsOnly fun record => record.source ≠ .pages := by
  have hbuild : Chart.traffic (.int s.trafficIn) (.int s.trafficOut) textColor style .humanized =
      .ok (_, Chart.clampRecords .ingress (.int s.trafficIn) ++
        Chart.clampRecords .egress (.int s.trafficOut)) :=
    Chart.traffic_eq ..
  rw [chartsJson, hbuild]
  change ((pure _ : Run _) >>= _).LogsOnly _
  rw [pure_bind]
  apply Run.LogsOnly.bind ⟨List.forall_mem_append.mpr
    ⟨source_clampRecords _ _, source_clampRecords _ _⟩⟩
  intro _
  apply (Run.logsOnly_of_nil rfl).bind
  intro trafficDrawing
  apply Run.LogsOnly.bind ⟨source_strangerRecords _⟩
  intro _
  exact (Run.logsOnly_of_nil rfl).bind fun _ => Run.logsOnly_of_nil rfl

end Site
end TunnelBoard
