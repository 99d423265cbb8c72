import TunnelBoard.Proofs.Server.Contact
import TunnelBoard.Proofs.Site.Answers

/-!
# When the site is in contact with the server

The state of the server is fetched once for a request that needs it, and not at
all for any other request: whatever is refused, led elsewhere or answered without
the state leaves the server alone.

A request does not need the state either if it cannot be read.  The page and the
data of the charts begin with the query, which is refused if it has too many
fields, and the page needs its cookies before the state.
-/

namespace TunnelBoard
namespace Site

/-!
# Requests that need the state
-/

/-- A query gives no style, an empty one, or a preset with blanks around it and in any case. -/
def Query.HasKnownStyle (query : Query) : Prop :=
  query.last? "style" = none ∨ query.last? "style" = some [] ∨
    ∃ name, query.last? "style" = some name ∧
      (name.trim.lower = "rich" ∨ name.trim.lower = "plain")

/-- What a resource needs of a request to look at the state of the server. -/
def Route.NeedsState (policy : Policy) (r : Request) : Route → Prop
  | .overview => (∃ query, r.fields policy = .ok query) ∧ ∃ cookies, r.readCookies = .ok cookies
  | .snapshot => True
  | .charts => ∃ query, r.fields policy = .ok query ∧ query.HasKnownStyle
  | .health => False

structure Request.NeedsState (policy : Policy) (r : Request) : Prop where
  admitted : r.IsAdmitted policy
  method : r.method = "GET"
  resource : ∃ route : Route, r.path = route.path ∧ route.NeedsState policy r

theorem ofPath?_eq_some_iff (path : Text) (route : Route) :
    Route.ofPath? path = some route ↔ path = route.path := by
  constructor
  · intro h
    have hfound := List.find?_some h
    exact (of_decide_eq_true hfound).symm
  · intro h
    subst h
    cases route <;> decide

theorem ofName?_eq_some_iff (name : Text) :
    (∃ style, Style.ofName? name = some style) ↔
      name.trim.lower = "rich" ∨ name.trim.lower = "plain" := by
  unfold Style.ofName?
  dsimp only
  split
  · rename_i hrich
    exact ⟨fun _ => .inl hrich, fun _ => ⟨_, rfl⟩⟩
  · rename_i hrich
    split
    · rename_i hplain
      exact ⟨fun _ => .inr hplain, fun _ => ⟨_, rfl⟩⟩
    · rename_i hplain
      constructor
      · intro h
        rcases h with ⟨style, h⟩
        cases h
      · intro h
        rcases h with h | h
        · exact absurd h hrich
        · exact absurd h hplain

theorem hasStyle_of_hasKnownStyle (configured : Style) {query : Query}
    (h : query.HasKnownStyle) : ∃ style, HasStyle configured query style := by
  rcases h with habsent | hempty | ⟨name, hgiven, hname⟩
  · exact ⟨configured, .unnamed (.inl habsent)⟩
  · exact ⟨configured, .unnamed (.inr hempty)⟩
  · rcases (ofName?_eq_some_iff name).mpr hname with ⟨style, hknown⟩
    exact ⟨style, .named hgiven hknown⟩

theorem namesNoPreset_of_not_hasKnownStyle {query : Query} (h : ¬ query.HasKnownStyle) :
    ∃ asked, NamesNoPreset query asked := by
  rcases hasStyle_or_namesNoPreset Style.rich query with ⟨style, hstyle⟩ | hasked
  · cases hstyle with
    | @named name style given known =>
        have hname := (ofName?_eq_some_iff name).mp ⟨style, known⟩
        exact absurd (.inr (.inr ⟨name, given, hname⟩)) h
    | unnamed absent =>
        rcases absent with habsent | hempty
        · exact absurd (.inl habsent) h
        · exact absurd (.inr (.inl hempty)) h
  · exact hasked

/-!
# Resources

A resource that does not fetch the state is quiet, and so is everything around the
fetch in one that does.
-/

section

variable {policy : Policy} {config : Config} {server : Server.Behavior} {r : Request}
  {access : Server.Access}

theorem fetchesOnce_tryFetch (haccess : config.access = .ok access) (server : Server.Behavior) :
    (tryFetch config server).FetchesOnce access.request? := by
  have hfetch : (fetch config server).FetchesOnce access.request? :=
    (Run.isQuiet_ofExcept config.access).bind haccess (Server.fetchesOnce_fetch access server)
  apply hfetch.attempt.bind_isQuiet
  intro result
  cases result with
  | ok s => exact Run.isQuiet_pure _
  | error f => cases f <;> exact ⟨rfl, rfl⟩

theorem fetchesOnce_shownState (haccess : config.access = .ok access)
    (server : Server.Behavior) : (shownState config server).FetchesOnce access.request? := by
  apply (fetchesOnce_tryFetch haccess server).bind_isQuiet
  intro result
  cases result <;> exact Run.isQuiet_pure _

theorem isQuiet_configuredStyle (config : Config) : (configuredStyle config).IsQuiet := by
  unfold configuredStyle
  split
  · exact Run.isQuiet_pure _
  · exact (Run.isQuiet_log _ _ _).bind_isQuiet fun _ => Run.isQuiet_pure _
  · exact Run.isQuiet_fail _

theorem isQuiet_requestedStyle (config : Config) (query : Query) :
    (requestedStyle config query).IsQuiet := by
  unfold requestedStyle
  split
  · exact Run.isQuiet_pure _
  · exact (isQuiet_configuredStyle config).bind_isQuiet fun _ => Run.isQuiet_pure _

theorem isQuiet_shownStyle (config : Config) (query : Query) :
    (shownStyle config query).IsQuiet := by
  apply (isQuiet_requestedStyle config query).bind_isQuiet
  intro result
  cases result with
  | ok style => exact Run.isQuiet_pure _
  | error f =>
      exact (Run.isQuiet_log _ _ _).bind_isQuiet fun _ => isQuiet_configuredStyle config

theorem isQuiet_chartsJson (s : Snapshot) (textColor : Text) (style : Style) :
    (chartsJson s textColor style).IsQuiet := by
  apply (Run.isQuiet_ofExcept _).bind_isQuiet
  intro traffic
  apply (Run.isQuiet_logAll _).bind_isQuiet
  intro _
  apply (Run.isQuiet_ofExcept _).bind_isQuiet
  intro trafficDrawing
  apply (Run.isQuiet_logAll _).bind_isQuiet
  intro _
  exact (Run.isQuiet_ofExcept _).bind_isQuiet fun _ => Run.isQuiet_pure _

theorem fetchesOnce_overviewPage (haccess : config.access = .ok access) {name : Text}
    (hconfig : config.chartStyle = .text name) {query : Query} {cookies : Cookies}
    (hfields : r.fields policy = .ok query) (hcookies : r.readCookies = .ok cookies) :
    (overviewPage policy config server r).FetchesOnce access.request? := by
  rcases exists_shownStyle hconfig query with ⟨style, hstyle, _⟩
  have hoverview : (overview policy config server r).FetchesOnce access.request? := by
    apply (Run.isQuiet_ofExcept _).bind hfields
    apply (Run.isQuiet_ofExcept _).bind (requestedTheme_eq_ok config query hcookies)
    apply (isQuiet_shownStyle config query).bind hstyle
    apply (fetchesOnce_shownState haccess server).bind_isQuiet
    intro shown
    exact (isQuiet_chartsJson _ _ _).bind_isQuiet fun _ => Run.isQuiet_pure _
  exact hoverview.bind_isQuiet fun o => Run.isQuiet_ofExcept o.page

theorem isQuiet_overviewPage (h : ¬ Route.overview.NeedsState policy r) :
    (overviewPage policy config server r).IsQuiet := by
  have hoverview : (overview policy config server r).IsQuiet := by
    cases hfields : r.fields policy with
    | error f => exact (Run.isQuiet_ofExcept _).bind_error hfields
    | ok query =>
        apply (Run.isQuiet_ofExcept _).bind hfields
        cases hcookies : r.readCookies with
        | error f =>
            apply (Run.isQuiet_ofExcept _).bind_error (f := f)
            rw [Run.result_ofExcept, requestedTheme, hcookies]
            rfl
        | ok cookies => exact absurd ⟨⟨query, hfields⟩, cookies, hcookies⟩ h
  exact hoverview.bind_isQuiet fun o => Run.isQuiet_ofExcept o.page

theorem fetchesOnce_snapshotData (haccess : config.access = .ok access)
    (server : Server.Behavior) : (snapshotData config server).FetchesOnce access.request? := by
  apply (fetchesOnce_tryFetch haccess server).bind_isQuiet
  intro result
  cases result <;> exact Run.isQuiet_pure _

theorem fetchesOnce_chartsData (haccess : config.access = .ok access) {name : Text}
    (hconfig : config.chartStyle = .text name) {query : Query}
    (hfields : r.fields policy = .ok query) (hstyle : query.HasKnownStyle) :
    (chartsData policy config server r).FetchesOnce access.request? := by
  rcases hasStyle_of_hasKnownStyle (presetOf name) hstyle with ⟨style, hstyle⟩
  apply (Run.isQuiet_ofExcept _).bind hfields
  apply (isQuiet_requestedStyle config query).bind
    (result_requestedStyle_of_hasStyle hconfig hstyle)
  apply (fetchesOnce_tryFetch haccess server).bind_isQuiet
  intro result
  cases result with
  | error cause => exact Run.isQuiet_pure _
  | ok s =>
      apply (Run.isQuiet_ofExcept _).bind_isQuiet
      intro theme
      exact (isQuiet_chartsJson _ _ _).bind_isQuiet fun _ => Run.isQuiet_pure _

theorem isQuiet_chartsData (h : ¬ Route.charts.NeedsState policy r) :
    (chartsData policy config server r).IsQuiet := by
  cases hfields : r.fields policy with
  | error f => exact (Run.isQuiet_ofExcept _).bind_error hfields
  | ok query =>
      have hstyle : ¬ query.HasKnownStyle := fun hstyle => h ⟨query, hfields, hstyle⟩
      rcases namesNoPreset_of_not_hasKnownStyle hstyle with ⟨asked, hasked⟩
      apply (Run.isQuiet_ofExcept _).bind hfields
      apply (isQuiet_requestedStyle config query).bind
        (result_requestedStyle_of_namesNoPreset config hasked)
      exact Run.isQuiet_pure _

theorem fetchesOnce_serve (haccess : config.access = .ok access) {name : Text}
    (hconfig : config.chartStyle = .text name) {route : Route}
    (h : route.NeedsState policy r) :
    (route.serve policy config server r).FetchesOnce access.request? := by
  cases route with
  | overview =>
      rcases h with ⟨⟨query, hfields⟩, cookies, hcookies⟩
      exact fetchesOnce_overviewPage haccess hconfig hfields hcookies
  | snapshot => exact fetchesOnce_snapshotData haccess server
  | charts =>
      rcases h with ⟨query, hfields, hstyle⟩
      exact fetchesOnce_chartsData haccess hconfig hfields hstyle
  | health => exact absurd h id

theorem isQuiet_serve {route : Route} (h : ¬ route.NeedsState policy r) :
    (route.serve policy config server r).IsQuiet := by
  cases route with
  | overview => exact isQuiet_overviewPage h
  | snapshot => exact absurd trivial h
  | charts => exact isQuiet_chartsData h
  | health => exact Run.isQuiet_pure _

/-!
# Responses

Nothing around the resources is in contact with the server.
-/

theorem isQuiet_lead (address : Text) : (lead address).IsQuiet := by
  unfold lead
  split
  · exact Run.isQuiet_fail _
  · exact Run.isQuiet_pure _

theorem isQuiet_leadToSlash : (leadToSlash policy r).IsQuiet :=
  (Run.isQuiet_ofExcept _).bind_isQuiet isQuiet_lead

theorem isQuiet_leadToWww : (leadToWww policy r).IsQuiet :=
  (Run.isQuiet_ofExcept _).bind_isQuiet fun _ => isQuiet_lead _

theorem isQuiet_leadToSecure : (leadToSecure policy r).IsQuiet :=
  (Run.isQuiet_ofExcept _).bind_isQuiet fun _ => isQuiet_lead _

variable {pages : ErrorPages}

theorem touches_shielded {scene : Scene} {origin : Origin} {run : Run Response} {fetches : Nat}
    {requests : List Server.Request} (h : run.Touches fetches requests) :
    (pages.shielded scene origin run).Touches fetches requests := by
  constructor
  · rw [ErrorPages.trace_shielded, h.fetches]
  · rw [ErrorPages.trace_shielded, h.requests]

theorem touches_delivered {run : Run Response} {fetches : Nat} {requests : List Server.Request}
    (h : run.Touches fetches requests) : (delivered r run).Touches fetches requests := by
  constructor
  · rw [trace_delivered, h.fetches]
  · rw [trace_delivered, h.requests]

theorem fetchesOnce_respond (haccess : config.access = .ok access) {name : Text}
    (hconfig : config.chartStyle = .text name) (h : r.NeedsState policy) :
    (respond pages policy config server r).FetchesOnce access.request? := by
  rcases h.resource with ⟨route, hpath, hneeds⟩
  rw [respond_of_isAdmitted h.admitted ((ofPath?_eq_some_iff r.path route).mpr hpath) h.method]
  exact touches_shielded (touches_shielded (touches_shielded (touches_shielded
    (fetchesOnce_serve haccess hconfig hneeds))))

theorem isQuiet_resource (hadmitted : r.IsAdmitted policy) (h : ¬ r.NeedsState policy) :
    (resource pages policy config server r).IsQuiet := by
  unfold resource
  cases hroute : Route.ofPath? r.path with
  | none => exact Run.isQuiet_pure _
  | some route =>
      by_cases hmethod : r.method = "GET"
      · have hneeds : ¬ route.NeedsState policy r := by
          intro hneeds
          have hpath := (ofPath?_eq_some_iff r.path route).mp hroute
          exact h ⟨hadmitted, hmethod, route, hpath, hneeds⟩
        dsimp only
        rw [if_pos hmethod]
        exact isQuiet_serve hneeds
      · dsimp only
        rw [if_neg hmethod]
        exact Run.isQuiet_pure _

theorem isQuiet_route (hplain : policy.security.redirects = false) (h : ¬ r.NeedsState policy) :
    (route pages policy config server r).IsQuiet := by
  cases hhost : answeredHost policy r with
  | error f => exact (Run.isQuiet_ofExcept _).bind_error hhost
  | ok host =>
      rcases answeredHost_eq_ok hhost with ⟨hanswered, hself⟩
      apply (Run.isQuiet_ofExcept _).bind hhost
      rw [hself]
      cases hdirect : policy.addsWww && !(Text.dropStart? "www." r.host).isSome with
      | true => exact isQuiet_leadToWww
      | false =>
          rw [if_neg Bool.false_ne_true]
          split
          · exact isQuiet_leadToSlash
          · exact touches_shielded (touches_shielded
              (isQuiet_resource ⟨hplain, hanswered, hdirect⟩ h))

theorem isQuiet_respond (h : ¬ r.NeedsState policy) :
    (respond pages policy config server r).IsQuiet := by
  apply touches_shielded
  unfold secured
  cases hplain : policy.security.redirects with
  | true => exact isQuiet_leadToSecure
  | false => exact touches_shielded (isQuiet_route hplain h)

end

/-!
# Contact
-/

/-- The values that a fetch and the charts depend on are of the kinds that they should be. -/
structure Config.IsWellTyped (config : Config) : Prop where
  address : ∃ t, config.address = .text t
  username : ∃ t, config.username = .text t
  password : ∃ t, config.password = .text t
  timeout : ∃ x, config.seconds = .ok x
  chartStyle : ∃ t, config.chartStyle = .text t

theorem exists_access {config : Config} (h : config.IsWellTyped) :
    ∃ access, config.access = .ok access ∧ config.address = .text access.address := by
  rcases h.address with ⟨address, haddress⟩
  rcases h.username with ⟨username, husername⟩
  rcases h.password with ⟨password, hpassword⟩
  rcases h.timeout with ⟨x, htimeout⟩
  have hcredentials : ∃ credentials, config.credentials = .ok credentials := by
    rw [Config.credentials, husername, hpassword]
    split <;> exact ⟨_, rfl⟩
  rcases hcredentials with ⟨⟨name, secret⟩, hcredentials⟩
  refine ⟨⟨config.runtime, address, name, secret⟩, ?_, haddress⟩
  rw [Config.access, htimeout, hcredentials, haddress]
  rfl

/--
For a request, the state of the server is fetched at most once, and once if and
only if the request needs it.  What the server receives of a fetch does not depend
on how it behaves: it is at most one request, for the state at the configured
address.
-/
theorem fetches_iff_needsState {config : Config} (h : config.IsWellTyped) :
    ∃ access : Server.Access, config.access = .ok access ∧
      config.address = .text access.address ∧
      (∀ request, access.request? = some request →
        request.method = "GET" ∧
          ∃ url, Server.requestUrl (access.address.dropWhileEnd (· = '/') ++ "/api/serverinfo") =
              .ok url ∧
            request.address = url.toText) ∧
      ∀ pages policy server r,
        let response := respond pages policy config server r
        ∀ run ∈ [response, delivered r response],
          run.trace.fetches ≤ 1 ∧
            (run.trace.fetches = 1 ↔ r.NeedsState policy) ∧
            (run.trace.fetches = 1 → run.trace.requests = access.request?.toList) ∧
            (run.trace.fetches = 0 → run.trace.requests = []) := by
  rcases exists_access h with ⟨access, haccess, haddress⟩
  rcases h.chartStyle with ⟨name, hconfig⟩
  refine ⟨access, haccess, haddress, ?_, ?_⟩
  · intro request hrequest
    rcases (Server.request?_eq_some_iff access request).mp hrequest with
      ⟨header, url, _, hurl, _, heq⟩
    rw [heq]
    exact ⟨rfl, url, hurl, rfl⟩
  · intro pages policy server r response run hrun
    have htouches : ∀ {fetches requests}, response.Touches fetches requests →
        run.Touches fetches requests := by
      intro fetches requests hresponse
      rcases List.mem_pair.mp hrun with hrun | hrun <;> rw [hrun]
      · exact hresponse
      · exact touches_delivered hresponse
    by_cases hneeds : r.NeedsState policy
    · have honce : run.FetchesOnce access.request? :=
        htouches (fetchesOnce_respond haccess hconfig hneeds)
      rw [honce.fetches]
      exact ⟨Nat.le_refl 1, ⟨fun _ => hneeds, fun _ => rfl⟩, fun _ => honce.requests, nofun⟩
    · have hquiet : run.IsQuiet := htouches (isQuiet_respond hneeds)
      rw [hquiet.fetches]
      exact ⟨Nat.zero_le 1, ⟨nofun, fun h => absurd h hneeds⟩, nofun, fun _ => hquiet.requests⟩

theorem isWellTyped_default (runtime : Server.Runtime) : (Config.default runtime).IsWellTyped :=
  ⟨⟨_, rfl⟩, ⟨_, rfl⟩, ⟨_, rfl⟩, ⟨_, rfl⟩, ⟨_, rfl⟩⟩

/-- A server that leads every request elsewhere. -/
def elsewhereServer : Server.Behavior :=
  .answers
    { status := 302
      headers := [(Text.utf8 "location", Text.utf8 "/login")]
      body := [] }

/-- A request for the page is one request to the server, which does not follow where it leads. -/
theorem fetches_of_plainRequest :
    plainRequest.NeedsState Policy.default ∧
      (respond shortPages Policy.default (Config.default terseRuntime) elsewhereServer
          plainRequest).trace.requests =
        [⟨"GET", "http://127.0.0.1:7500/api/serverinfo", none⟩] := by
  have hneeds : plainRequest.NeedsState Policy.default :=
    ⟨⟨rfl, by decide, rfl⟩, rfl, .overview, rfl, ⟨[], rfl⟩, [], rfl⟩
  rcases fetches_iff_needsState (isWellTyped_default terseRuntime) with
    ⟨access, haccess, _, _, hcontact⟩
  rcases hcontact shortPages Policy.default elsewhereServer plainRequest _ List.mem_cons_self with
    ⟨_, honce, hrequests, _⟩
  refine ⟨hneeds, ?_⟩
  rw [hrequests (honce.mpr hneeds), ← Except.ok.inj haccess]
  decide +kernel

/-- A request for the page with one field more than a query may have. -/
def crowdedRequest : Request := { plainRequest with query := List.replicate 1000 '&' }

/-- A request for the page at a host that is answered leaves the server alone if it is crowded. -/
theorem no_fetch_of_crowdedRequest :
    (Config.default terseRuntime).IsWellTyped ∧ crowdedRequest.IsAdmitted Policy.default ∧
      crowdedRequest.method = "GET" ∧ crowdedRequest.path = "/" ∧
      (respond shortPages Policy.default (Config.default terseRuntime) elsewhereServer
        crowdedRequest).trace.fetches = 0 := by
  have hfields : crowdedRequest.fields Policy.default = .error .tooManyFields := by
    decide +kernel
  have hneeds : ¬ crowdedRequest.NeedsState Policy.default := by
    intro h
    rcases h.resource with ⟨route, hpath, hroute⟩
    cases route with
    | overview =>
        rcases hroute.1 with ⟨query, hquery⟩
        cases hfields.symm.trans hquery
    | snapshot => exact absurd hpath (by decide)
    | charts => exact absurd hpath (by decide)
    | health => exact absurd hpath (by decide)
  exact ⟨isWellTyped_default terseRuntime, ⟨rfl, by decide, rfl⟩, rfl, rfl,
    (isQuiet_respond hneeds).fetches⟩

end Site
end TunnelBoard
