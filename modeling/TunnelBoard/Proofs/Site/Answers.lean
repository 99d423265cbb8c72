import TunnelBoard.Proofs.Site.PageContents
import TunnelBoard.Site.Routes

/-!
# When the page answers

The page and the state as JSON are asked for at the same host.  If the state is
sent as JSON, the page answers, too, unless a text of the state cannot be
written: JSON has an escape for a surrogate, while a page has none.  Beyond
that, the page only depends on a query and on cookies that can be read.
-/

namespace TunnelBoard

/-- The texts of a state that a page shows can be written. -/
structure Snapshot.IsWritable (s : Snapshot) : Prop where
  version : s.version.IsWritable
  subdomainHost : s.subdomainHost.IsWritable
  allowedPorts : s.allowedPorts.IsWritable

namespace Site

/-!
# Reaching resources
-/

/-- A request reaches the resources of the site: it is neither refused nor led elsewhere. -/
structure Request.IsAdmitted (policy : Policy) (r : Request) : Prop where
  plain : policy.security.redirects = false
  answered : isAnswered policy r = true
  direct : (policy.addsWww && !(Text.dropStart? "www." r.host).isSome) = false

section

variable {pages : ErrorPages} {policy : Policy} {config : Config} {server : Server.Behavior}
  {r : Request} {response : Response}

theorem answeredHost_eq_ok {host : Text} (h : answeredHost policy r = .ok host) :
    isAnswered policy r = true ∧ host = r.host := by
  unfold answeredHost at h
  split at h
  · rename_i hanswered
    cases h
    exact ⟨hanswered, rfl⟩
  · cases h

theorem answeredHost_of_isAnswered (h : isAnswered policy r = true) :
    answeredHost policy r = .ok r.host :=
  if_pos h

theorem lacksSlash_of_ofPath? {path : Text} {route : Route}
    (h : Route.ofPath? path = some route) : lacksSlash path = false := by
  rw [lacksSlash, h]
  simp

theorem respond_of_isAdmitted (h : r.IsAdmitted policy) {route : Route}
    (hroute : Route.ofPath? r.path = some route) (hmethod : r.method = "GET") :
    respond pages policy config server r =
      pages.sheltered ⟨policy, config, server, r⟩ (route.serve policy config server r) := by
  have hsecured : secured pages policy config server r =
      pages.shielded ⟨policy, config, server, r⟩ .routing
        (Site.route pages policy config server r) := by
    rw [secured, h.plain, if_neg Bool.false_ne_true]
  have hroutes : Site.route pages policy config server r =
      pages.shielded ⟨policy, config, server, r⟩ .routing
        (framed pages policy config server r) := by
    rw [Site.route, answeredHost_of_isAnswered h.answered]
    change (pure r.host : Run Text) >>= _ = _
    rw [pure_bind, h.direct, if_neg Bool.false_ne_true, lacksSlash_of_ofPath? hroute,
      Bool.and_false, if_neg Bool.false_ne_true]
  have hresource : resource pages policy config server r = route.serve policy config server r := by
    rw [resource, hroute, hmethod]
    rfl
  rw [respond, hsecured, hroutes, framed, hresource, ErrorPages.sheltered]

/-!
# Redirects
-/

theorem status_of_lead {address : Text} (h : (lead address).result = .ok response) :
    response.status = 301 := by
  unfold lead at h
  split at h
  · cases h
  · cases h
    rfl

theorem status_of_leadToWww (h : (leadToWww policy r).result = .ok response) :
    response.status = 301 := by
  rcases Run.result_bind_eq_ok h with ⟨path, _, h⟩
  exact status_of_lead h

theorem status_of_leadToSecure (h : (leadToSecure policy r).result = .ok response) :
    response.status = 301 := by
  rcases Run.result_bind_eq_ok h with ⟨host, _, h⟩
  exact status_of_lead h

/-- Only admitted requests get an answer with the status 200. -/
theorem isAdmitted_of_respond (h : (respond pages policy config server r).result = .ok response)
    (hstatus : response.status = 200) : r.IsAdmitted policy := by
  have hother : response.status ≠ 301 := by
    rw [hstatus]
    decide
  have hsecured := ErrorPages.result_of_shielded h hstatus
  unfold secured at hsecured
  cases hplain : policy.security.redirects with
  | true =>
      rw [hplain] at hsecured
      exact absurd (status_of_leadToSecure hsecured) hother
  | false =>
      rw [hplain] at hsecured
      have hroutes := ErrorPages.result_of_shielded hsecured hstatus
      rcases Run.result_bind_eq_ok hroutes with ⟨host, hhost, hroutes⟩
      rcases answeredHost_eq_ok hhost with ⟨hanswered, hself⟩
      rw [hself] at hroutes
      cases hdirect : policy.addsWww && !(Text.dropStart? "www." r.host).isSome with
      | true =>
          rw [hdirect] at hroutes
          exact absurd (status_of_leadToWww hroutes) hother
      | false => exact ⟨hplain, hanswered, hdirect⟩

/-!
# Delivery
-/

theorem trace_delivered (r : Request) (run : Run Response) :
    (delivered r run).trace = run.trace := by
  unfold delivered
  cases hrun : run.result with
  | error f => exact Run.trace_bind_error hrun _
  | ok response =>
      rw [Run.trace_bind_ok hrun]
      split <;> exact Trace.append_empty _

theorem result_delivered_of_error {run : Run Response} {f : Fault} (h : run.result = .error f) :
    (delivered r run).result = .error f :=
  Run.result_bind_error h _

theorem result_delivered_of_about {run : Run Response} {f : Fault} (h : run.result = .ok response)
    (habout : response.about = some f) (hstatus : response.status = 500) :
    (delivered r run).result = .error f := by
  rw [delivered, Run.result_bind_ok h, habout, hstatus]
  rfl

theorem result_delivered_of_ok {run : Run Response} (h : run.result = .ok response)
    (hstatus : response.status ≠ 500) :
    (delivered r run).result =
      .ok (if r.method = "HEAD" then { response with body := [] } else response) := by
  rw [delivered, Run.result_bind_ok h, Option.filter_eq_none_iff.mpr]
  · rfl
  · intro f _
    simp [hstatus]

theorem exists_of_delivered {run : Run Response} (h : (delivered r run).result = .ok response) :
    ∃ sent, run.result = .ok sent ∧ sent.status = response.status := by
  rcases Run.result_bind_eq_ok h with ⟨sent, hsent, h⟩
  refine ⟨sent, hsent, ?_⟩
  split at h
  · cases h
  · cases h
    split <;> rfl

/-- The delivery has no say in whether there is an answer with the status 200. -/
theorem answers_delivered_iff (r : Request) (run : Run Response) :
    (∃ page, (delivered r run).result = .ok page ∧ page.status = 200) ↔
      ∃ page, run.result = .ok page ∧ page.status = 200 := by
  constructor
  · intro h
    rcases h with ⟨page, hpage, hstatus⟩
    rcases exists_of_delivered hpage with ⟨sent, hsent, hsame⟩
    exact ⟨sent, hsent, hsame.trans hstatus⟩
  · intro h
    rcases h with ⟨page, hpage, hstatus⟩
    have hother : page.status ≠ 500 := by
      rw [hstatus]
      decide
    refine ⟨_, result_delivered_of_ok hpage hother, ?_⟩
    split <;> exact hstatus

theorem fetch_of_snapshotData (h : (snapshotData config server).result = .ok response)
    (hstatus : response.status = 200) :
    ∃ s, (fetch config server).result = .ok s ∧ response.body = s.toJson.render := by
  rcases Run.result_bind_eq_ok h with ⟨outcome, htry, h⟩
  cases outcome with
  | error cause =>
      cases h
      cases hstatus
  | ok s =>
      cases h
      exact ⟨s, result_fetch_of_tryFetch htry, rfl⟩

end

/-!
# The page of a state
-/

section

variable {policy : Policy} {config : Config} {name : Text} {r : Request} {query : Query}
  {cookies : Cookies}

theorem hasStyle_or_namesNoPreset (configured : Style) (query : Query) :
    (∃ style, HasStyle configured query style) ∨ ∃ asked, NamesNoPreset query asked := by
  cases hgiven : query.last? "style" with
  | none => exact .inl ⟨configured, .unnamed (.inl hgiven)⟩
  | some asked =>
      cases hknown : Style.ofName? asked with
      | some style => exact .inl ⟨style, .named hgiven hknown⟩
      | none =>
          cases asked with
          | nil => exact .inl ⟨configured, .unnamed (.inr hgiven)⟩
          | cons c rest => exact .inr ⟨c :: rest, hgiven, List.cons_ne_nil c rest, hknown⟩

theorem exists_shownStyle (hconfig : config.chartStyle = .text name) (query : Query) :
    ∃ style, (shownStyle config query).result = .ok style ∧ style.IsSendable := by
  rcases hasStyle_or_namesNoPreset (presetOf name) query with ⟨style, hstyle⟩ | ⟨asked, hasked⟩
  · exact ⟨style, result_shownStyle_of_hasStyle hconfig hstyle, hstyle.isSendable⟩
  · exact ⟨presetOf name, result_shownStyle_of_namesNoPreset hconfig hasked,
      isSendable_presetOf name⟩

theorem overviewPage_of_fetch (hconfig : config.chartStyle = .text name)
    (hfields : r.fields policy = .ok query) (hcookies : r.readCookies = .ok cookies)
    {server : Server.Behavior} {s : Snapshot} (hfetch : (fetch config server).result = .ok s) :
    (s.IsWritable → ∃ response, (overviewPage policy config server r).result = .ok response ∧
        response.status = 200) ∧
      (¬ s.IsWritable → ∃ f, (overviewPage policy config server r).result = .error f ∧
        f.IsUnshowable) := by
  have htheme := isWritable_themeOf config query cookies
  rcases exists_shownStyle hconfig query with ⟨style, hstyle, hsendable⟩
  rcases chartsJson_eq_ok (isMerged_of_fetch hfetch) htheme.text hsendable with ⟨charts, hcharts, _⟩
  have hpage := result_page
    (result_overview_of_ok hfields hcookies hstyle (result_shownState_of_ok hfetch) hcharts)
  rcases exists_entries_of_fetch hfetch with ⟨entries, hentries⟩
  have hcounters := Snapshot.counters_ofEntries_le entries
  rw [← hentries] at hcounters
  rcases Page.render_eq_ok htheme (hcounters s.trafficIn (by simp [Snapshot.counters]))
    (hcounters s.trafficOut (by simp [Snapshot.counters])) none (Json.isWritable_render charts) with
    ⟨t, hrender, hwritable⟩
  rw [hpage]
  constructor
  · intro hs
    have hnone : ∀ e ∈ (none : Option Text), e.IsWritable := by
      intro e he
      cases he
    have ht := hwritable.mpr ⟨hs.version, hnone, hs.subdomainHost, hs.allowedPorts⟩
    exact ⟨_, page_of_writable hrender ht, rfl⟩
  · intro hs
    apply page_of_unwritable hrender
    intro ht
    rcases hwritable.mp ht with ⟨hversion, _, hsubdomainHost, hallowedPorts⟩
    exact hs ⟨hversion, hsubdomainHost, hallowedPorts⟩

theorem readable_of_overviewPage {server : Server.Behavior} {response : Response}
    (h : (overviewPage policy config server r).result = .ok response) :
    (∃ query, r.fields policy = .ok query) ∧ ∃ cookies, r.readCookies = .ok cookies := by
  rcases Run.result_bind_eq_ok h with ⟨o, hoverview, _⟩
  rcases overview_eq_ok hoverview with ⟨query, cookies, _, hfields, hcookies, _⟩
  exact ⟨⟨query, hfields⟩, ⟨cookies, hcookies⟩⟩

theorem exposureFault?_of_readable (hfields : r.fields policy = .ok query)
    (hcookies : r.readCookies = .ok cookies) : r.exposureFault? policy = none := by
  rw [Request.exposureFault?, hfields, hcookies]
  split <;> rfl

/--
If the state is answered as JSON, the page answers if and only if the query and the
cookies of its request can be read and no text of the state that it shows has a
surrogate.  If only such a text stands in the way, a text could not be encoded.
Developers get no report of that, for a report shows the text again and cannot be
encoded either; visitors get the page about the status 500.
-/
theorem page_answers_iff (hconfig : config.chartStyle = .text name) {pages : ErrorPages}
    {server : Server.Behavior} {data : Request} (hmethod : data.method = "GET")
    (hpath : data.path = Route.snapshot.path) {answer : Response}
    (hanswer : (respond pages policy config server data).result = .ok answer)
    (hstatus : answer.status = 200) :
    ∃ entries, (fetch config server).result = .ok (Snapshot.ofEntries entries) ∧
      answer.body = (Snapshot.ofEntries entries).toJson.render ∧
      ∀ r : Request, r.method = "GET" → r.path = Route.overview.path → r.IsAdmitted policy →
        let response := respond pages policy config server r
        (∀ run ∈ [response, delivered r response],
          ((∃ page, run.result = .ok page ∧ page.status = 200) ↔
            (∃ query, r.fields policy = .ok query) ∧ (∃ cookies, r.readCookies = .ok cookies) ∧
              (Snapshot.ofEntries entries).IsWritable)) ∧
        ((∃ query, r.fields policy = .ok query) → (∃ cookies, r.readCookies = .ok cookies) →
          ¬ (Snapshot.ofEntries entries).IsWritable →
            (∃ text, (delivered r response).result = .error (.unencodable text)) ∧
            (policy.debug = true → ∃ text, response.result = .error (.unencodable text)) ∧
            (policy.debug = false → ∃ page, response.result = .ok page ∧ page.status = 500)) := by
  have hadmitted := isAdmitted_of_respond hanswer hstatus
  have hroute : Route.ofPath? data.path = some .snapshot := by
    rw [hpath]
    decide
  rw [respond_of_isAdmitted hadmitted hroute hmethod] at hanswer
  rcases fetch_of_snapshotData (ErrorPages.result_of_sheltered hanswer hstatus) hstatus with
    ⟨s, hfetch, hbody⟩
  rcases exists_entries_of_fetch hfetch with ⟨entries, hentries⟩
  rw [hentries] at hfetch hbody
  refine ⟨entries, hfetch, hbody, ?_⟩
  intro r hget hroot hr response
  have hpage : Route.ofPath? r.path = some .overview := by
    rw [hroot]
    decide
  have hserve : Route.overview.serve policy config server r =
      overviewPage policy config server r := rfl
  have hresponse : response = _ := respond_of_isAdmitted hr hpage hget
  rw [hserve] at hresponse
  clear_value response
  constructor
  · have hanswers : (∃ page, response.result = .ok page ∧ page.status = 200) ↔
        (∃ query, r.fields policy = .ok query) ∧ (∃ cookies, r.readCookies = .ok cookies) ∧
          (Snapshot.ofEntries entries).IsWritable := by
      rw [hresponse]
      constructor
      · intro hok
        rcases hok with ⟨page, hsheltered, hpageStatus⟩
        have hresult := ErrorPages.result_of_sheltered hsheltered hpageStatus
        rcases readable_of_overviewPage hresult with ⟨⟨query, hfields⟩, cookies, hcookies⟩
        refine ⟨⟨query, hfields⟩, ⟨cookies, hcookies⟩, ?_⟩
        by_contra hunwritable
        rcases (overviewPage_of_fetch hconfig hfields hcookies hfetch).2 hunwritable with
          ⟨f, hfault, _⟩
        rw [hfault] at hresult
        cases hresult
      · intro hconditions
        rcases hconditions with ⟨⟨query, hfields⟩, ⟨cookies, hcookies⟩, hwritable⟩
        rcases (overviewPage_of_fetch hconfig hfields hcookies hfetch).1 hwritable with
          ⟨page, hresult, hpageStatus⟩
        exact ⟨page, ErrorPages.result_sheltered_of_ok hresult, hpageStatus⟩
    intro run hrun
    rcases List.mem_pair.mp hrun with hrun | hrun <;> rw [hrun]
    · exact hanswers
    · exact (answers_delivered_iff r response).trans hanswers
  · intro hquery hheader hunwritable
    rcases hquery with ⟨query, hfields⟩
    rcases hheader with ⟨cookies, hcookies⟩
    have hexposed := exposureFault?_of_readable hfields hcookies
    have hfault := (overviewPage_of_fetch hconfig hfields hcookies hfetch).2 hunwritable
    rw [hresponse]
    cases hdebug : policy.debug with
    | true =>
        rcases ErrorPages.result_sheltered_of_isUnshowable pages ⟨policy, config, server, r⟩
          hdebug hexposed hfault with ⟨g, hg, text, htext, _⟩
        rw [htext] at hg
        exact ⟨⟨text, result_delivered_of_error hg⟩, fun _ => ⟨text, hg⟩, nofun⟩
    | false =>
        rcases hfault with ⟨f, hf, hunshowable⟩
        rcases ErrorPages.result_sheltered_of_visitor pages ⟨policy, config, server, r⟩ hdebug hf
          with ⟨page, hsent, habout, hpageStatus⟩
        rw [hunshowable.status] at hpageStatus
        have hdelivered := result_delivered_of_about (r := r) hsent habout hpageStatus
        rcases hunshowable with ⟨text, htext, _⟩
        rw [htext] at hdelivered
        exact ⟨⟨text, hdelivered⟩, nofun, fun _ => ⟨page, hsent, hpageStatus⟩⟩

end

/-- A server whose version is an escape for a surrogate. -/
def surrogateServer : Server.Behavior :=
  .answers
    { status := 200
      headers := []
      body := ("\x7b\"version\": \"\\ud800\"\x7d" : Text).utf8 }

def surrogateEntries : List (Value × Value) := [(.text "version", .text [0xD800])]

/-- A request for the state as JSON without anything else. -/
def dataRequest : Request := { plainRequest with path := "/api/serverinfo/" }

/-- The part of a report with one of the settings. -/
def shownName (config : Config) : Text :=
  "<td>FRPS_DASHBOARD_USER</td>\n<td class=\"code\"><pre>" ++ Html.escape config.username.quoted
    ++ "</pre></td>"

/-- Pages whose reports show the fault and one of the settings. -/
def shortPages : ErrorPages :=
  { opening := fun r f =>
      r.path ++ "<pre class=\"exception_value\">" ++ Html.escape f.message ++ "</pre>"
    closing := fun scene _ =>
      if (shownName scene.config).IsWritable then shownName scene.config else []
    missing := fun _ r => "Page not found at " ++ Html.escape r.path
    plain := fun status => if status = 500 then "Server Error (500)" else "Bad Request (400)"
    isWritable_closing := by
      intro scene f _
      split
      · assumption
      · exact Text.isWritable_nil }

/-- The version is sent as JSON, while there is neither a page nor a report. -/
theorem page_fails_at_surrogate :
    ∃ answer, (respond shortPages Policy.default (Config.default terseRuntime) surrogateServer
        dataRequest).result = .ok answer ∧
      answer.status = 200 ∧
      ∃ text, (respond shortPages Policy.default (Config.default terseRuntime) surrogateServer
        plainRequest).result = .error (.unencodable text) := by
  have hfetch : (fetch (Config.default terseRuntime) surrogateServer).result =
      .ok (Snapshot.ofEntries surrogateEntries) := by
    decide +kernel
  have hdata : dataRequest.IsAdmitted Policy.default := ⟨rfl, by decide, rfl⟩
  have hroot : plainRequest.IsAdmitted Policy.default := ⟨rfl, by decide, rfl⟩
  have hroute : Route.ofPath? dataRequest.path = some .snapshot := by decide
  have hanswer : (respond shortPages Policy.default (Config.default terseRuntime) surrogateServer
      dataRequest).result = .ok (.ofJson 200 (Snapshot.ofEntries surrogateEntries).toJson) := by
    rw [respond_of_isAdmitted hdata hroute rfl]
    exact ErrorPages.result_sheltered_of_ok (result_snapshotData_of_ok hfetch)
  refine ⟨_, hanswer, rfl, ?_⟩
  have hconfig : (Config.default terseRuntime).chartStyle = .text "rich" := rfl
  rcases page_answers_iff hconfig rfl rfl hanswer rfl with ⟨entries, hstate, _, hpages⟩
  rw [hfetch] at hstate
  have hsurrogate : ¬ (Snapshot.ofEntries entries).IsWritable := by
    rw [← Except.ok.inj hstate]
    intro hwritable
    have hclear := hwritable.version 0xD800 (by decide)
    cases hclear
  exact ((hpages plainRequest rfl rfl hroot).2 ⟨[], rfl⟩ ⟨[], rfl⟩ hsurrogate).2.1 rfl

end Site
end TunnelBoard
