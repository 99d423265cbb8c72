import TunnelBoard.Proofs.Server.Credentials
import TunnelBoard.Proofs.Site.Contact

/-!
# Credentials of the site

Nobody who asks the site can tell with which credentials it reaches the server,
unless he is taken for a developer and gets a report about an error: apart from
reports, the responses, the faults and the log are the same for all of them.
-/

namespace TunnelBoard
namespace Site

open Server (Credentials)

/-- The configuration with an address and credentials. -/
def Config.withAccess (config : Config) (address : Text) (c : Credentials) : Config :=
  { config with
    address := .text address
    username := .text c.name
    password := .text c.password }

section

variable {config : Config} {address : Text} {related : Server.Request → Server.Request → Prop}

theorem access_withAccess {x : Binary64} (h : config.seconds = .ok x) (address : Text)
    (c : Credentials) :
    ∃ access, (config.withAccess address c).access = .ok access ∧ access.address = address ∧
      access.runtime = config.runtime ∧ access.authorization = .ok c.header := by
  have hseconds : (config.withAccess address c).seconds = .ok x := h
  rw [Config.access, hseconds]
  by_cases hname : c.name = []
  · have hcredentials : (config.withAccess address c).credentials = .ok ([], []) := by
      rw [Config.credentials, Config.withAccess, hname]
      rfl
    refine ⟨⟨config.runtime, address, [], []⟩, ?_, rfl, rfl, ?_⟩
    · rw [hcredentials]
      rfl
    · rw [Credentials.header, if_pos hname]
      rfl
  · have hcredentials : (config.withAccess address c).credentials = .ok (c.name, c.password) := by
      rw [Config.credentials, Config.withAccess]
      cases hc : c.name with
      | nil => exact absurd hc hname
      | cons first rest => rfl
    refine ⟨c.access config.runtime address, ?_, rfl, rfl,
      Server.Credentials.authorization_access c config.runtime address⟩
    rw [hcredentials]
    rfl

/-- Fetches of the site with different credentials. -/
theorem alike_fetch_withAccess (config : Config) (address : Text) (c d : Credentials)
    (server : Server.Behavior) :
    (fetch (config.withAccess address c) server).Alike
      (Server.Request.DifferInHeader address c.header d.header)
      (fetch (config.withAccess address d) server) := by
  cases hseconds : config.seconds with
  | error f =>
      -- The timeout is read first, and it has the same fault with all credentials.
      have herror : ∀ c, (config.withAccess address c).access = .error f := by
        intro c
        have h : (config.withAccess address c).seconds = .error f := hseconds
        rw [Config.access, h]
        rfl
      rw [fetch, fetch, herror, herror]
      exact Run.IsQuiet.alike ((Run.isQuiet_ofExcept _).bind_error rfl)
  | ok x =>
      rcases access_withAccess hseconds address c with ⟨a, ha, haddress, hruntime, hheader⟩
      rcases access_withAccess hseconds address d with ⟨b, hb, hbddress, hbruntime, hbheader⟩
      rw [fetch, fetch, ha, hb]
      change ((pure a : Run _) >>= _).Alike _ ((pure b : Run _) >>= _)
      rw [pure_bind, pure_bind]
      exact Server.alike_fetch haddress hbddress (hruntime.trans hbruntime.symm) hheader hbheader
        server

/-!
# Resources

The resources look at the address and the credentials in a fetch alone.
-/

variable {first second : Config} {server : Server.Behavior} {policy : Policy} {r : Request}

/-- Two configurations are the same for the site: their fetches are alike, and so is the rest. -/
structure Config.Alike (related : Server.Request → Server.Request → Prop)
    (server : Server.Behavior) (first second : Config) : Prop where
  fetch : (fetch first server).Alike related (fetch second server)
  theme : first.theme = second.theme
  chartStyle : first.chartStyle = second.chartStyle

theorem alike_withAccess (config : Config) (address : Text) (c d : Credentials)
    (server : Server.Behavior) :
    (config.withAccess address c).Alike
      (Server.Request.DifferInHeader address c.header d.header) server
      (config.withAccess address d) :=
  ⟨alike_fetch_withAccess config address c d server, rfl, rfl⟩

theorem alike_tryFetch (h : first.Alike related server second) :
    (tryFetch first server).Alike related (tryFetch second server) := by
  apply h.fetch.attempt.bind
  intro result
  cases result with
  | ok s => exact (Run.isQuiet_pure _).alike
  | error f => cases f <;> exact Run.IsQuiet.alike ⟨rfl, rfl⟩

theorem alike_shownState (h : first.Alike related server second) :
    (shownState first server).Alike related (shownState second server) := by
  apply (alike_tryFetch h).bind
  intro result
  cases result <;> exact (Run.isQuiet_pure _).alike

theorem configuredStyle_eq (h : first.Alike related server second) :
    configuredStyle first = configuredStyle second := by
  rw [configuredStyle, configuredStyle, h.chartStyle]

theorem requestedStyle_eq (h : first.Alike related server second) (query : Query) :
    requestedStyle first query = requestedStyle second query := by
  rw [requestedStyle, requestedStyle, configuredStyle_eq h]

theorem shownStyle_eq (h : first.Alike related server second) (query : Query) :
    shownStyle first query = shownStyle second query := by
  rw [shownStyle, shownStyle, requestedStyle_eq h, configuredStyle_eq h]

theorem requestedTheme_eq (h : first.Alike related server second) (query : Query) (r : Request) :
    requestedTheme first query r = requestedTheme second query r := by
  rw [requestedTheme, requestedTheme, h.theme]

theorem alike_overviewPage (h : first.Alike related server second) :
    (overviewPage policy first server r).Alike related (overviewPage policy second server r) := by
  have hoverview : (overview policy first server r).Alike related
      (overview policy second server r) := by
    apply (Run.isQuiet_ofExcept _).alike.bind
    intro query
    rw [requestedTheme_eq h, shownStyle_eq h]
    apply (Run.isQuiet_ofExcept _).alike.bind
    intro theme
    apply (isQuiet_shownStyle second query).alike.bind
    intro style
    apply (alike_shownState h).bind
    intro shown
    exact (isQuiet_chartsJson _ _ _).alike.bind fun _ => (Run.isQuiet_pure _).alike
  exact hoverview.bind fun o => (Run.isQuiet_ofExcept o.page).alike

theorem alike_snapshotData (h : first.Alike related server second) :
    (snapshotData first server).Alike related (snapshotData second server) := by
  apply (alike_tryFetch h).bind
  intro result
  cases result <;> exact (Run.isQuiet_pure _).alike

theorem alike_chartsData (h : first.Alike related server second) :
    (chartsData policy first server r).Alike related (chartsData policy second server r) := by
  apply (Run.isQuiet_ofExcept _).alike.bind
  intro query
  rw [requestedStyle_eq h]
  apply (isQuiet_requestedStyle second query).alike.bind
  intro asked
  cases asked with
  | error f => exact (Run.isQuiet_pure _).alike
  | ok style =>
      apply (alike_tryFetch h).bind
      intro result
      cases result with
      | error cause => exact (Run.isQuiet_pure _).alike
      | ok s =>
          dsimp only
          rw [requestedTheme_eq h]
          apply (Run.isQuiet_ofExcept _).alike.bind
          intro theme
          exact (isQuiet_chartsJson _ _ _).alike.bind fun _ => (Run.isQuiet_pure _).alike

theorem alike_serve (h : first.Alike related server second) (route : Route) :
    (route.serve policy first server r).Alike related (route.serve policy second server r) := by
  cases route with
  | overview => exact alike_overviewPage h
  | snapshot => exact alike_snapshotData h
  | charts => exact alike_chartsData h
  | health => exact (Run.isQuiet_pure _).alike

/-!
# Responses

A report for developers shows the configuration, so two reports of one fault may
have different bodies.
-/

/-- A response is a report for developers. -/
structure Response.IsReport (policy : Policy) (response : Response) : Prop where
  debug : policy.debug = true
  about : ∃ f : Fault, response.about = some f ∧ response.status = f.status

/-- Two responses are the same but for the bodies of reports. -/
structure Response.Agrees (policy : Policy) (x y : Response) : Prop where
  status : x.status = y.status
  headers : x.headers policy = y.headers policy
  context : x.context = y.context
  about : x.about = y.about
  body : x.body = y.body ∨ x.IsReport policy

/-- Two runs end with the same fault, or with responses that agree. -/
inductive Response.Agree (policy : Policy) :
    Except Fault Response → Except Fault Response → Prop where
  | fault (f : Fault) : Agree policy (.error f) (.error f)
  | response {x y : Response} (h : x.Agrees policy y) : Agree policy (.ok x) (.ok y)

theorem Response.agree_self (policy : Policy) (result : Except Fault Response) :
    Agree policy result result := by
  cases result with
  | error f => exact .fault f
  | ok x => exact .response ⟨rfl, rfl, rfl, rfl, .inl rfl⟩

/-- Two runs agree, and what they send is related. -/
structure Agrees (related : Server.Request → Server.Request → Prop) (policy : Policy)
    (one other : Run Response) : Prop where
  result : Response.Agree policy one.result other.result
  trace : one.trace.Alike related other.trace

variable {pages : ErrorPages} {one other : Run Response}

theorem agrees_of_alike (h : one.Alike related other) : Agrees related policy one other := by
  refine ⟨?_, h.trace⟩
  rw [h.result]
  exact Response.agree_self policy other.result

theorem agree_response (first second : Config) (origin : Origin) (f : Fault) :
    Response.Agree policy (pages.response ⟨policy, first, server, r⟩ origin f)
      (pages.response ⟨policy, second, server, r⟩ origin f) := by
  unfold ErrorPages.response
  rcases pages.text_cases ⟨policy, first, server, r⟩ ⟨policy, second, server, r⟩ rfl rfl f with
    ⟨g, hone, hother⟩ | ⟨t, u, hone, hother, hbody⟩
  · rw [hone, hother]
    exact .fault g
  · rw [hone, hother]
    refine .response ⟨rfl, rfl, rfl, rfl, ?_⟩
    exact hbody.imp id fun hdebug => ⟨hdebug, f, rfl, rfl⟩

theorem agrees_shielded (first second : Config) (origin : Origin)
    (h : Agrees related policy one other) :
    Agrees related policy (pages.shielded ⟨policy, first, server, r⟩ origin one)
      (pages.shielded ⟨policy, second, server, r⟩ origin other) := by
  constructor
  · have hresult := h.result
    generalize hone : one.result = x at hresult
    generalize hother : other.result = y at hresult
    cases hresult with
    | fault f =>
        rw [ErrorPages.result_shielded_of_error hone, ErrorPages.result_shielded_of_error hother]
        exact agree_response first second origin f
    | response h =>
        rw [ErrorPages.result_shielded_of_ok hone, ErrorPages.result_shielded_of_ok hother]
        exact .response h
  · rw [ErrorPages.trace_shielded, ErrorPages.trace_shielded]
    exact h.trace

theorem alike_resource (h : first.Alike related server second) :
    (resource pages policy first server r).Alike related
      (resource pages policy second server r) := by
  unfold resource
  cases Route.ofPath? r.path with
  | none => exact (Run.isQuiet_pure _).alike
  | some route =>
      dsimp only
      split
      · exact alike_serve h route
      · exact (Run.isQuiet_pure _).alike

theorem agrees_route (h : first.Alike related server second) :
    Agrees related policy (route pages policy first server r)
      (route pages policy second server r) := by
  unfold route
  cases answeredHost policy r with
  | error f => exact ⟨.fault f, rfl, .nil, rfl⟩
  | ok host =>
      change Agrees related policy ((pure host : Run Text) >>= _) ((pure host : Run Text) >>= _)
      rw [pure_bind, pure_bind]
      split
      · exact agrees_of_alike isQuiet_leadToWww.alike
      · split
        · exact agrees_of_alike isQuiet_leadToSlash.alike
        · exact agrees_shielded first second .routing
            (agrees_shielded first second .resource (agrees_of_alike (alike_resource h)))

theorem agrees_respond (h : first.Alike related server second) :
    Agrees related policy (respond pages policy first server r)
      (respond pages policy second server r) := by
  apply agrees_shielded first second
  unfold secured
  split
  · exact agrees_of_alike isQuiet_leadToSecure.alike
  · exact agrees_shielded first second .routing (agrees_route h)

end

end Site
end TunnelBoard
