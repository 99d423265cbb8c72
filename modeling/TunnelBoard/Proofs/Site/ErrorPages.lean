import TunnelBoard.Proofs.Text.Writable
import TunnelBoard.Site.ErrorPages

/-!
# What becomes of a fault

A layer leaves alone what a run leaves behind, and it leaves alone a response.  A
fault becomes a page, or the fault of this page; which of the two it becomes
depends on the policy, the request and the fault alone, although a report has
more in it than these.

A report of a run that could not be written has the run in it again, so it cannot
be written either, however many layers try.
-/

namespace TunnelBoard

/-- A text could not be written, and neither can a report that shows its surroundings. -/
def Fault.IsUnshowable (f : Fault) : Prop :=
  ∃ run, f = .unencodable run ∧ ¬ run.surroundings.IsWritable

theorem Fault.status_cases (f : Fault) : f.status = 400 ∨ f.status = 500 := by
  unfold status
  split
  · exact .inl rfl
  · exact .inl rfl
  · exact .inl rfl
  · exact .inr rfl

theorem Fault.IsUnshowable.status {f : Fault} (h : f.IsUnshowable) : f.status = 500 := by
  rcases h with ⟨run, hf, _⟩
  rw [hf]
  rfl

namespace Site

/-!
# Reports

The front of a report ends with markup, so the rest of it is too far away to have
a part in what is reported of a run in the front.
-/

namespace Report

theorem exists_front_eq (opening : Request → Fault → Text) (r : Request) (f : Fault) :
    ∃ before margin, front opening r f = before ++ margin ∧ margin.IsWritable ∧
      Unencodable.margin ≤ margin.length := by
  unfold front
  cases f with
  | unencodable run =>
      refine ⟨_, "</strong></p>\n  </div>\n", (List.append_assoc _ _ _).symm,
        Text.isWritable_ofString _, by decide⟩
  | _ =>
      exact ⟨opening r _, divider, List.append_nil _, Text.isWritable_ofString _, by decide⟩

theorem not_isWritable_front (opening : Request → Fault → Text) (r : Request) {f : Fault}
    (h : f.IsUnshowable) : ¬ (front opening r f).IsWritable := by
  rcases h with ⟨run, hf, hrun⟩
  intro hwritable
  rw [hf, front, Text.isWritable_append] at hwritable
  apply hrun
  simpa [hint] using hwritable.2

end Report

namespace ErrorPages

section

variable (pages : ErrorPages) (scene : Scene) {f : Fault}

theorem writable_report_of_isWritable
    (h : (Report.front pages.opening scene.request f).IsWritable) :
    writable (pages.report scene f) = .ok (pages.report scene f) :=
  writable_eq_ok ((Text.isWritable_append _ _).mpr ⟨h, pages.isWritable_closing scene f h⟩)

theorem writable_report_of_not_isWritable
    (h : ¬ (Report.front pages.opening scene.request f).IsWritable) :
    writable (pages.report scene f) =
      writable (Report.front pages.opening scene.request f) := by
  rcases Report.exists_front_eq pages.opening scene.request f with
    ⟨before, margin, hfront, hmargin, hlength⟩
  rw [report, hfront]
  rw [hfront, Text.isWritable_append] at h
  exact writable_append (fun hbefore => h ⟨hbefore, hmargin⟩) hmargin hlength _

/-- The pages about a fault in two scenes have the same fault, or both can be written. -/
theorem text_cases (other : Scene) (hpolicy : scene.policy = other.policy)
    (hrequest : scene.request = other.request) (f : Fault) :
    (∃ g, pages.text scene f = .error g ∧ pages.text other f = .error g) ∨
      ∃ t u, pages.text scene f = .ok t ∧ pages.text other f = .ok u ∧
        (t = u ∨ other.policy.debug = true) := by
  unfold text
  rw [hpolicy, hrequest]
  cases other.request.exposureFault? other.policy with
  | some exposed => exact .inl ⟨exposed, rfl, rfl⟩
  | none =>
      cases hdebug : other.policy.debug with
      | false => exact .inr ⟨_, _, rfl, rfl, .inl rfl⟩
      | true =>
          dsimp only
          rw [if_pos rfl, if_pos rfl]
          by_cases hfront : (Report.front pages.opening other.request f).IsWritable
          · have hother := writable_report_of_isWritable pages other hfront
            rw [← hrequest] at hfront
            have hscene := writable_report_of_isWritable pages scene hfront
            exact .inr ⟨_, _, hscene, hother, .inr rfl⟩
          · rcases writable_eq_error hfront with ⟨run, hrun, _⟩
            have hother := writable_report_of_not_isWritable pages other hfront
            rw [← hrequest] at hfront hrun
            have hscene := writable_report_of_not_isWritable pages scene hfront
            rw [← hrequest] at hother
            exact .inl ⟨_, hscene.trans hrun, hother.trans hrun⟩

/-- A report of what could not be written could not be written. -/
theorem text_of_isUnshowable (hdebug : scene.policy.debug = true)
    (hexposed : scene.request.exposureFault? scene.policy = none) (h : f.IsUnshowable) :
    ∃ g, pages.text scene f = .error g ∧ g.IsUnshowable := by
  have hfront := Report.not_isWritable_front pages.opening scene.request h
  rcases writable_eq_error hfront with ⟨run, hrun, hshown⟩
  refine ⟨.unencodable run, ?_, run, rfl, hshown⟩
  rw [text, hexposed]
  dsimp only
  rw [if_pos hdebug, writable_report_of_not_isWritable pages scene hfront, hrun]

theorem text_of_visitor (hdebug : scene.policy.debug = false) (f : Fault) :
    pages.text scene f = .ok (pages.plain f.status) := by
  rw [text, Request.exposureFault?, hdebug]
  rfl

end

/-!
# Layers
-/

section

variable {pages : ErrorPages} {scene : Scene} {origin : Origin} {run : Run Response}
  {response : Response} {f : Fault}

theorem about_of_response (h : pages.response scene origin f = .ok response) :
    response.about = some f ∧ response.status = f.status := by
  unfold ErrorPages.response at h
  cases htext : pages.text scene f with
  | error g =>
      rw [htext] at h
      cases h
  | ok t =>
      rw [htext] at h
      cases h
      exact ⟨rfl, rfl⟩

@[simp]
theorem trace_shielded (pages : ErrorPages) (scene : Scene) (origin : Origin)
    (run : Run Response) : (pages.shielded scene origin run).trace = run.trace := by
  rw [shielded, Run.trace_bind_ok (Run.result_attempt run)]
  cases run.result with
  | error f => exact Trace.append_empty _
  | ok response => exact Trace.append_empty _

theorem result_shielded_of_ok (h : run.result = .ok response) :
    (pages.shielded scene origin run).result = .ok response := by
  rw [shielded, Run.result_bind_ok (Run.result_attempt run), h]
  rfl

theorem result_shielded_of_error (h : run.result = .error f) :
    (pages.shielded scene origin run).result = pages.response scene origin f := by
  rw [shielded, Run.result_bind_ok (Run.result_attempt run), h]
  rfl

/-- A response that is not about an error was made inside the layer. -/
theorem result_of_shielded (h : (pages.shielded scene origin run).result = .ok response)
    (hstatus : response.status = 200) : run.result = .ok response := by
  cases hrun : run.result with
  | error f =>
      rw [result_shielded_of_error hrun] at h
      have hpage := (about_of_response h).2
      rw [hstatus] at hpage
      rcases f.status_cases with hf | hf <;> rw [hf] at hpage <;> cases hpage
  | ok inner =>
      rw [result_shielded_of_ok hrun] at h
      exact h

theorem result_shielded_of_isUnshowable (hdebug : scene.policy.debug = true)
    (hexposed : scene.request.exposureFault? scene.policy = none)
    (h : ∃ f, run.result = .error f ∧ f.IsUnshowable) :
    ∃ g, (pages.shielded scene origin run).result = .error g ∧ g.IsUnshowable := by
  rcases h with ⟨f, hrun, hf⟩
  rcases text_of_isUnshowable pages scene hdebug hexposed hf with ⟨g, hg, hunshowable⟩
  refine ⟨g, ?_, hunshowable⟩
  rw [result_shielded_of_error hrun, ErrorPages.response, hg]
  rfl

/-- The response of a run behind all layers. -/
def sheltered (pages : ErrorPages) (scene : Scene) (run : Run Response) : Run Response :=
  pages.shielded scene .entrance
    (pages.shielded scene .routing
      (pages.shielded scene .routing (pages.shielded scene .resource run)))

theorem result_sheltered_of_ok (h : run.result = .ok response) :
    (pages.sheltered scene run).result = .ok response :=
  result_shielded_of_ok
    (result_shielded_of_ok (result_shielded_of_ok (result_shielded_of_ok h)))

theorem result_of_sheltered (h : (pages.sheltered scene run).result = .ok response)
    (hstatus : response.status = 200) : run.result = .ok response :=
  result_of_shielded (result_of_shielded
    (result_of_shielded (result_of_shielded h hstatus) hstatus) hstatus) hstatus

theorem result_sheltered_of_isUnshowable (pages : ErrorPages) (scene : Scene)
    (hdebug : scene.policy.debug = true)
    (hexposed : scene.request.exposureFault? scene.policy = none)
    (h : ∃ f, run.result = .error f ∧ f.IsUnshowable) :
    ∃ g, (pages.sheltered scene run).result = .error g ∧ g.IsUnshowable :=
  result_shielded_of_isUnshowable hdebug hexposed
    (result_shielded_of_isUnshowable hdebug hexposed
      (result_shielded_of_isUnshowable hdebug hexposed
        (result_shielded_of_isUnshowable hdebug hexposed h)))

theorem result_sheltered_of_visitor (pages : ErrorPages) (scene : Scene)
    (hdebug : scene.policy.debug = false) (h : run.result = .error f) :
    ∃ page, (pages.sheltered scene run).result = .ok page ∧ page.about = some f ∧
      page.status = f.status := by
  cases hpage : pages.response scene .resource f with
  | error g =>
      rw [ErrorPages.response, text_of_visitor pages scene hdebug f] at hpage
      cases hpage
  | ok page =>
      have hresource : (pages.shielded scene .resource run).result = .ok page := by
        rw [result_shielded_of_error h, hpage]
      exact ⟨page, result_shielded_of_ok (result_shielded_of_ok
        (result_shielded_of_ok hresource)), about_of_response hpage⟩

end

end ErrorPages
end Site
end TunnelBoard
