import TunnelBoard.Proofs.Json.Scripts
import TunnelBoard.Proofs.Server.Fetching
import TunnelBoard.Proofs.Site.Charts
import TunnelBoard.Proofs.Site.ErrorPages
import TunnelBoard.Proofs.Site.PageText
import TunnelBoard.Proofs.Site.Queries

/-!
# Views of one state

The page, the state as JSON and the JSON of the charts are views of one state of
the server.  They agree on the charts for every state, and on the reason for
every server that gives none.  A style that is no preset is an error of the data
alone; the page falls back to the configured style.

There is one exception: the page does not answer if the reason has a surrogate,
because the banner cannot be written.
-/

namespace TunnelBoard
namespace Site

/-!
# Styles
-/

/-- The preset that a configuration names, or the rich one. -/
def presetOf (name : Text) : Style := (Style.ofName? name).getD Style.rich

/-- The style of a query: the preset it names, or the configured one if it names nothing. -/
inductive HasStyle (configured : Style) (query : Query) : Style → Prop where
  | named {name : Text} {style : Style} (given : query.last? "style" = some name)
      (known : Style.ofName? name = some style) : HasStyle configured query style
  | unnamed (absent : query.last? "style" = none ∨ query.last? "style" = some []) :
      HasStyle configured query configured

/-- A query names a style that is no preset. -/
structure NamesNoPreset (query : Query) (name : Text) : Prop where
  given : query.last? "style" = some name
  nonempty : name ≠ []
  unknown : Style.ofName? name = none

theorem isSendable_presetOf (name : Text) : (presetOf name).IsSendable := by
  unfold presetOf
  cases h : Style.ofName? name with
  | none => exact Style.isSendable_rich
  | some style => exact Style.isSendable_of_ofName? h

theorem HasStyle.isSendable {name : Text} {query : Query} {style : Style}
    (h : HasStyle (presetOf name) query style) : style.IsSendable := by
  cases h with
  | named given known => exact Style.isSendable_of_ofName? known
  | unnamed absent => exact isSendable_presetOf name

theorem result_configuredStyle {config : Config} {name : Text}
    (h : config.chartStyle = .text name) :
    (configuredStyle config).result = .ok (presetOf name) := by
  have hofName : Style.ofValue config.chartStyle = Style.ofName name := by
    rw [h, Style.ofValue]
  rw [configuredStyle, hofName, Style.ofName, presetOf]
  cases Style.ofName? name with
  | none => rfl
  | some style => rfl

theorem Theme.firstGiven_cons_of_filled {t : Text} (h : t ≠ []) (rest : List (Option Text)) :
    firstGiven (some t :: rest) = some t := by
  cases t with
  | nil => exact absurd rfl h
  | cons c tail => rfl

theorem Theme.firstGiven_cons_of_silent {given : Option Text} (h : given = none ∨ given = some [])
    (rest : List (Option Text)) : firstGiven (given :: rest) = firstGiven rest := by
  rcases h with h | h <;> rw [h] <;> rfl

theorem result_requestedStyle_of_hasStyle {config : Config} {name : Text}
    (hconfig : config.chartStyle = .text name) {query : Query} {style : Style}
    (h : HasStyle (presetOf name) query style) :
    (requestedStyle config query).result = .ok (.ok style) := by
  unfold requestedStyle
  cases h with
  | @named asked style given known =>
      have hasked : asked ≠ [] := by
        intro hnil
        rw [hnil] at known
        cases known
      rw [given, Theme.firstGiven_cons_of_filled hasked]
      show Except.ok (Style.ofName asked) = _
      rw [Style.ofName, known]
  | unnamed absent =>
      have hnone : Theme.firstGiven [query.last? "style"] = none :=
        Theme.firstGiven_cons_of_silent absent []
      rw [hnone]
      exact Run.result_bind_ok (result_configuredStyle hconfig) _

theorem result_requestedStyle_of_namesNoPreset (config : Config) {query : Query} {name : Text}
    (h : NamesNoPreset query name) :
    (requestedStyle config query).result = .ok (.error (.unknownStyle name.quoted)) := by
  unfold requestedStyle
  rw [h.given, Theme.firstGiven_cons_of_filled h.nonempty]
  show Except.ok (Style.ofName name) = _
  rw [Style.ofName, h.unknown]

theorem result_shownStyle_of_hasStyle {config : Config} {name : Text}
    (hconfig : config.chartStyle = .text name) {query : Query} {style : Style}
    (h : HasStyle (presetOf name) query style) :
    (shownStyle config query).result = .ok style := by
  rw [shownStyle, Run.result_bind_ok (result_requestedStyle_of_hasStyle hconfig h)]
  rfl

theorem result_shownStyle_of_namesNoPreset {config : Config} {name : Text}
    (hconfig : config.chartStyle = .text name) {query : Query} {asked : Text}
    (h : NamesNoPreset query asked) :
    (shownStyle config query).result = .ok (presetOf name) := by
  rw [shownStyle, Run.result_bind_ok (result_requestedStyle_of_namesNoPreset config h)]
  exact result_configuredStyle hconfig

/-!
# States
-/

theorem exists_entries_of_fetch {config : Config} {server : Server.Behavior} {s : Snapshot}
    (h : (fetch config server).result = .ok s) : ∃ entries, s = Snapshot.ofEntries entries := by
  rcases Run.result_bind_eq_ok h with ⟨access, _, hfetch⟩
  rcases (Server.result_fetch_eq_ok_iff access server s).mp hfetch with ⟨entries, _, heq⟩
  exact ⟨entries, heq⟩

theorem isMerged_of_fetch {config : Config} {server : Server.Behavior} {s : Snapshot}
    (h : (fetch config server).result = .ok s) : s.proxies.IsMerged := by
  rcases exists_entries_of_fetch h with ⟨entries, heq⟩
  rw [heq]
  exact Snapshot.isMerged_proxies_ofEntries entries

theorem result_tryFetch_of_ok {config : Config} {server : Server.Behavior} {s : Snapshot}
    (h : (fetch config server).result = .ok s) :
    (tryFetch config server).result = .ok (.ok s) := by
  rw [tryFetch, Run.result_bind_ok (Run.result_attempt _), h]
  rfl

theorem result_fetch_of_tryFetch {config : Config} {server : Server.Behavior} {s : Snapshot}
    (h : (tryFetch config server).result = .ok (.ok s)) : (fetch config server).result = .ok s := by
  rcases Run.result_bind_eq_ok h with ⟨attempt, hattempt, h⟩
  rw [Run.result_attempt] at hattempt
  rw [Except.ok.inj hattempt]
  cases attempt with
  | ok fetched =>
      cases h
      rfl
  | error f => cases f <;> cases h

theorem result_tryFetch_of_unavailable {config : Config} {server : Server.Behavior}
    {cause : Server.Unavailable} (h : (fetch config server).result = .error (.unavailable cause)) :
    (tryFetch config server).result = .ok (.error cause) := by
  rw [tryFetch, Run.result_bind_ok (Run.result_attempt _), h]
  rfl

theorem result_shownState_of_ok {config : Config} {server : Server.Behavior} {s : Snapshot}
    (h : (fetch config server).result = .ok s) :
    (shownState config server).result = .ok (s, none) := by
  rw [shownState, Run.result_bind_ok (result_tryFetch_of_ok h)]
  rfl

theorem result_shownState_of_unavailable {config : Config} {server : Server.Behavior}
    {cause : Server.Unavailable} (h : (fetch config server).result = .error (.unavailable cause)) :
    (shownState config server).result = .ok (Snapshot.empty, some cause.message) := by
  rw [shownState, Run.result_bind_ok (result_tryFetch_of_unavailable h)]
  rfl

/-!
# The page
-/

/-- The theme of a query and cookies. -/
def themeOf (config : Config) (query : Query) (cookies : Cookies) : Theme :=
  Theme.ofName (Theme.requested (query.last? "theme") (cookies.last? themeCookie) config.theme)

theorem isWritable_themeOf (config : Config) (query : Query) (cookies : Cookies) :
    (themeOf config query cookies).IsWritable :=
  Theme.isWritable_ofName _

theorem requestedTheme_eq_ok (config : Config) (query : Query) {r : Request} {cookies : Cookies}
    (h : r.readCookies = .ok cookies) :
    requestedTheme config query r = .ok (themeOf config query cookies) := by
  rw [requestedTheme, h]
  rfl

section

variable {policy : Policy} {config : Config} {server : Server.Behavior} {r : Request}
  {query : Query} {cookies : Cookies} {style : Style}

/-- The overview is gathered from the style and the state that are shown. -/
theorem result_overview (hfields : r.fields policy = .ok query)
    (hcookies : r.readCookies = .ok cookies)
    (hstyle : (shownStyle config query).result = .ok style) :
    (overview policy config server r).result =
      (shownState config server).result.bind fun (s, error) =>
        (chartsJson s (themeOf config query cookies).text style).result.bind fun charts =>
          .ok
            { theme := themeOf config query cookies, snapshot := s, error, style := style.key
              charts } := by
  rw [overview, Run.result_bind_ok hfields,
    Run.result_bind_ok (requestedTheme_eq_ok config query hcookies), Run.result_bind_ok hstyle,
    Run.result_bind]
  apply congrArg (Except.bind _)
  funext shown
  rw [Run.result_bind]
  rfl

theorem result_overview_of_ok (hfields : r.fields policy = .ok query)
    (hcookies : r.readCookies = .ok cookies)
    (hstyle : (shownStyle config query).result = .ok style) {s : Snapshot} {error : Option Text}
    (hstate : (shownState config server).result = .ok (s, error)) {charts : Json}
    (hcharts : (chartsJson s (themeOf config query cookies).text style).result = .ok charts) :
    (overview policy config server r).result =
      .ok
        { theme := themeOf config query cookies, snapshot := s, error, style := style.key
          charts } := by
  rw [result_overview hfields hcookies hstyle, hstate]
  simp only [Except.bind, hcharts]

/-- There is no page without the cookies, for the theme may be in them. -/
theorem result_overview_of_unreadable (hfields : r.fields policy = .ok query) {f : Fault}
    (hcookies : r.readCookies = .error f) :
    (overview policy config server r).result = .error f := by
  have htheme : requestedTheme config query r = .error f := by
    rw [requestedTheme, hcookies]
    rfl
  rw [overview, Run.result_bind_ok hfields, Run.result_bind_error htheme]

theorem result_page {o : Overview} (h : (overview policy config server r).result = .ok o) :
    (overviewPage policy config server r).result = o.page := by
  rw [overviewPage, Run.result_bind_ok h]
  rfl

end

theorem page_of_writable {o : Overview} {t : Text}
    (hrender : Page.render o.theme o.snapshot o.error o.charts.render = .ok t)
    (ht : t.IsWritable) :
    o.page = .ok { Response.ofBody 200 Response.html t with context := some o.context } := by
  rw [Overview.page, hrender]
  show (writable t >>= _) = _
  rw [writable_eq_ok ht]
  rfl

theorem page_of_unwritable {o : Overview} {t : Text}
    (hrender : Page.render o.theme o.snapshot o.error o.charts.render = .ok t)
    (ht : ¬ t.IsWritable) : ∃ f, o.page = .error f ∧ f.IsUnshowable := by
  rcases writable_eq_error ht with ⟨run, hrun, hshown⟩
  refine ⟨.unencodable run, ?_, run, rfl, hshown⟩
  rw [Overview.page, hrender]
  show (writable t >>= _) = _
  rw [hrun]
  rfl

theorem render_of_page {o : Overview} {response : Response} (h : o.page = .ok response) :
    Page.render o.theme o.snapshot o.error o.charts.render = .ok response.body := by
  cases hrender : Page.render o.theme o.snapshot o.error o.charts.render with
  | error f =>
      rw [Overview.page, hrender] at h
      cases h
  | ok page =>
      by_cases hpage : page.IsWritable
      · rw [page_of_writable hrender hpage] at h
        cases h
        rfl
      · rcases page_of_unwritable hrender hpage with ⟨f, hf, _⟩
        rw [hf] at h
        cases h

/-- An overview of the empty state is a page if and only if its error can be written. -/
theorem page_of_empty {o : Overview} (htheme : o.theme.IsWritable)
    (hsnapshot : o.snapshot = Snapshot.empty) :
    ((∃ response, o.page = .ok response) ↔ ∀ e ∈ o.error, e.IsWritable) ∧
      ∀ response, o.page = .ok response →
        response.status = 200 ∧ response.context = some o.context := by
  rcases Page.render_eq_ok htheme (s := o.snapshot) (hsnapshot ▸ Nat.zero_le _)
    (hsnapshot ▸ Nat.zero_le _) o.error (Json.isWritable_render o.charts) with
    ⟨t, hrender, hwritable⟩
  have hempty : Text.IsWritable Snapshot.empty.version ∧
      Text.IsWritable Snapshot.empty.subdomainHost ∧
        Text.IsWritable Snapshot.empty.allowedPorts :=
    ⟨Text.isWritable_nil, Text.isWritable_nil, Text.isWritable_nil⟩
  rw [hsnapshot] at hwritable
  simp only [hempty, true_and, and_true] at hwritable
  rw [← hwritable]
  by_cases ht : t.IsWritable
  · rw [page_of_writable hrender ht]
    refine ⟨⟨fun _ => ht, fun _ => ⟨_, rfl⟩⟩, ?_⟩
    intro response hresponse
    cases hresponse
    exact ⟨rfl, rfl⟩
  · rcases page_of_unwritable hrender ht with ⟨f, hf, _⟩
    rw [hf]
    constructor
    · constructor
      · intro h
        rcases h with ⟨response, hresponse⟩
        cases hresponse
      · intro h
        exact absurd h ht
    · intro response hresponse
      cases hresponse

/-!
# Agreement
-/

/-- The page and the data show the same charts of a state. -/
structure ShowState (policy : Policy) (config : Config) (server : Server.Behavior) (r : Request)
    (theme : Theme) (style : Style) (s : Snapshot) (o : Overview) (response : Response) :
    Prop where
  page : (overview policy config server r).result = .ok o
  data : (chartsData policy config server r).result = .ok response
  themed : o.theme = theme
  state : o.snapshot = s
  error : o.context.error = none
  styled : o.context.style = style.key
  drawn : (chartsJson s theme.text style).result = .ok o.charts
  status : response.status = 200
  body : response.body = o.context.charts
  /-- The script of the page decodes to the same value as the body of the data. -/
  script : ∀ depth, 7 ≤ depth →
    Json.read depth (Piece.data o.context.charts).render = .ok o.charts.toValue ∧
      Json.read depth o.context.charts = .ok o.charts.toValue

/--
The page and the data give the same reason why there is no state.  The page shows
the charts of the empty state, and it answers if and only if the reason can be
written.
-/
structure ShowReason (policy : Policy) (config : Config) (server : Server.Behavior) (r : Request)
    (theme : Theme) (style : Style) (cause : Server.Unavailable) (o : Overview) : Prop where
  page : (overview policy config server r).result = .ok o
  data : (chartsData policy config server r).result = .ok (.ofJson 502 (errorJson cause.message))
  themed : o.theme = theme
  state : o.snapshot = Snapshot.empty
  error : o.context.error = some cause.message
  styled : o.context.style = style.key
  drawn : (chartsJson Snapshot.empty theme.text style).result = .ok o.charts
  answers : (∃ response, (overviewPage policy config server r).result = .ok response) ↔
    cause.message.IsWritable
  answer : ∀ response, (overviewPage policy config server r).result = .ok response →
    response.status = 200 ∧ response.context = some o.context

section

variable {policy : Policy} {config : Config} {name : Text} {r : Request} {query : Query}
  {cookies : Cookies} {style : Style}

theorem showState_of_fetch (hconfig : config.chartStyle = .text name)
    (hfields : r.fields policy = .ok query) (hcookies : r.readCookies = .ok cookies)
    (hstyle : HasStyle (presetOf name) query style) {server : Server.Behavior} {s : Snapshot}
    (hfetch : (fetch config server).result = .ok s) :
    ∃ o response,
      ShowState policy config server r (themeOf config query cookies) style s o response := by
  have htheme := isWritable_themeOf config query cookies
  rcases chartsJson_eq_ok (isMerged_of_fetch hfetch) htheme.text hstyle.isSendable with
    ⟨charts, hcharts, hreadable⟩
  have hstate := result_shownState_of_ok hfetch
  refine ⟨⟨themeOf config query cookies, s, none, style.key, charts⟩, .ofJson 200 charts, ?_⟩
  constructor
  case page =>
    exact result_overview_of_ok hfields hcookies (result_shownStyle_of_hasStyle hconfig hstyle)
      hstate hcharts
  case data =>
    rw [chartsData, Run.result_bind_ok hfields,
      Run.result_bind_ok (result_requestedStyle_of_hasStyle hconfig hstyle)]
    dsimp only
    rw [Run.result_bind_ok (result_tryFetch_of_ok hfetch)]
    dsimp only
    rw [Run.result_bind_ok (requestedTheme_eq_ok config query hcookies),
      Run.result_bind_ok hcharts]
    rfl
  case script =>
    intro depth hdepth
    have h : Json.Readable depth charts := by
      have h := hreadable (depth - 7)
      rw [Nat.sub_add_cancel hdepth] at h
      exact h
    exact ⟨Json.read_escapeScript_render h, Json.read_render h⟩
  case drawn => exact hcharts
  all_goals rfl

theorem showReason_of_fetch (hconfig : config.chartStyle = .text name)
    (hfields : r.fields policy = .ok query) (hcookies : r.readCookies = .ok cookies)
    (hstyle : HasStyle (presetOf name) query style) {server : Server.Behavior}
    {cause : Server.Unavailable}
    (hfetch : (fetch config server).result = .error (.unavailable cause)) :
    ∃ o, ShowReason policy config server r (themeOf config query cookies) style cause o := by
  have htheme := isWritable_themeOf config query cookies
  rcases chartsJson_eq_ok (s := Snapshot.empty) Counts.isMerged_nil htheme.text hstyle.isSendable
    with ⟨charts, hcharts, _⟩
  have hstate := result_shownState_of_unavailable hfetch
  let o : Overview :=
    ⟨themeOf config query cookies, Snapshot.empty, some cause.message, style.key, charts⟩
  have hpage : (overview policy config server r).result = .ok o :=
    result_overview_of_ok hfields hcookies (result_shownStyle_of_hasStyle hconfig hstyle) hstate
      hcharts
  have hempty := page_of_empty (o := o) htheme rfl
  refine ⟨o, ?_⟩
  constructor
  case page => exact hpage
  case data =>
    rw [chartsData, Run.result_bind_ok hfields,
      Run.result_bind_ok (result_requestedStyle_of_hasStyle hconfig hstyle)]
    dsimp only
    rw [Run.result_bind_ok (result_tryFetch_of_unavailable hfetch)]
    rfl
  case drawn => exact hcharts
  case answers =>
    rw [result_page hpage, hempty.1]
    constructor
    · intro h
      exact h cause.message rfl
    · intro h e he
      cases he
      exact h
  case answer =>
    rw [result_page hpage]
    exact hempty.2
  all_goals rfl

/-- A style that is no preset is an error of the data, whatever the server does. -/
theorem chartsData_of_namesNoPreset (hfields : r.fields policy = .ok query) {asked : Text}
    (h : NamesNoPreset query asked) (server : Server.Behavior) :
    (chartsData policy config server r).result =
      .ok (.ofJson 400 (errorJson (Fault.unknownStyle asked.quoted).message)) := by
  rw [chartsData, Run.result_bind_ok hfields,
    Run.result_bind_ok (result_requestedStyle_of_namesNoPreset config h)]
  rfl

/-- The page does not differ from that of the same request without the style. -/
theorem overview_of_namesNoPreset (hconfig : config.chartStyle = .text name)
    (hfields : r.fields policy = .ok query) {asked : Text} (h : NamesNoPreset query asked)
    (server : Server.Behavior) :
    (overview policy config server r).result =
      (overview policy config server (r.without "style")).result := by
  have hwithout := Request.fields_without hfields "style"
  cases hcookies : r.readCookies with
  | error f =>
      rw [result_overview_of_unreadable hfields hcookies,
        result_overview_of_unreadable (r := r.without "style") hwithout hcookies]
  | ok cookies =>
      have hunnamed : HasStyle (presetOf name) (query.filter fun f => f.1 ≠ "style")
          (presetOf name) := .unnamed (.inl (Query.last?_filter_self query "style"))
      have htheme : themeOf config (query.filter fun f => f.1 ≠ "style") cookies =
          themeOf config query cookies := by
        rw [themeOf, Query.last?_filter_of_ne query (by decide)]
        rfl
      rw [result_overview hfields hcookies (result_shownStyle_of_namesNoPreset hconfig h),
        result_overview (r := r.without "style") hwithout hcookies
          (result_shownStyle_of_hasStyle hconfig hunnamed), htheme]

/-- The data of a state needs the cookies, too, but not the reason why there is none. -/
theorem chartsData_of_unreadable (hconfig : config.chartStyle = .text name)
    (hfields : r.fields policy = .ok query) {f : Fault} (hcookies : r.readCookies = .error f)
    (hstyle : HasStyle (presetOf name) query style) (server : Server.Behavior) :
    (∀ s, (fetch config server).result = .ok s →
        (chartsData policy config server r).result = .error f) ∧
      ∀ cause, (fetch config server).result = .error (.unavailable cause) →
        (chartsData policy config server r).result =
          .ok (.ofJson 502 (errorJson cause.message)) := by
  have htheme : requestedTheme config query r = .error f := by
    rw [requestedTheme, hcookies]
    rfl
  rw [chartsData, Run.result_bind_ok hfields,
    Run.result_bind_ok (result_requestedStyle_of_hasStyle hconfig hstyle)]
  dsimp only
  constructor
  · intro s hfetch
    rw [Run.result_bind_ok (result_tryFetch_of_ok hfetch)]
    dsimp only
    rw [Run.result_bind_error htheme]
  · intro cause hfetch
    rw [Run.result_bind_ok (result_tryFetch_of_unavailable hfetch)]
    rfl

theorem result_snapshotData_of_ok {server : Server.Behavior} {s : Snapshot}
    (h : (fetch config server).result = .ok s) :
    (snapshotData config server).result = .ok (.ofJson 200 s.toJson) := by
  rw [snapshotData, Run.result_bind_ok (result_tryFetch_of_ok h)]
  rfl

theorem result_snapshotData_of_unavailable {server : Server.Behavior} {cause : Server.Unavailable}
    (h : (fetch config server).result = .error (.unavailable cause)) :
    (snapshotData config server).result = .ok (.ofJson 502 (errorJson cause.message)) := by
  rw [snapshotData, Run.result_bind_ok (result_tryFetch_of_unavailable h)]
  rfl

/--
The page and the data end with the same fault if a query has too many fields.
Otherwise they show the same charts of a state and give the same reason if there
is none; a style that is no preset is an error of the data, while the page is
that of the request without it.  Without cookies that can be read there is no
page and no data but the reason.  The state as JSON gives the same state and the
same reason.
-/
theorem views_agree (hconfig : config.chartStyle = .text name) :
    (∀ f, r.fields policy = .error f → ∀ server,
      (overview policy config server r).result = .error f ∧
        (chartsData policy config server r).result = .error f) ∧
    (∀ query, r.fields policy = .ok query →
      (∀ style, HasStyle (presetOf name) query style → ∀ server,
        (∀ cookies, r.readCookies = .ok cookies →
          (∀ s, (fetch config server).result = .ok s →
            ∃ o response, ShowState policy config server r (themeOf config query cookies) style s o
              response) ∧
          (∀ cause, (fetch config server).result = .error (.unavailable cause) →
            ∃ o, ShowReason policy config server r (themeOf config query cookies) style cause o)) ∧
        (∀ f, r.readCookies = .error f →
          (overview policy config server r).result = .error f ∧
          (∀ s, (fetch config server).result = .ok s →
            (chartsData policy config server r).result = .error f) ∧
          (∀ cause, (fetch config server).result = .error (.unavailable cause) →
            (chartsData policy config server r).result =
              .ok (.ofJson 502 (errorJson cause.message))))) ∧
      (∀ asked, NamesNoPreset query asked → ∀ server,
        (chartsData policy config server r).result =
            .ok (.ofJson 400 (errorJson (Fault.unknownStyle asked.quoted).message)) ∧
          (overview policy config server r).result =
            (overview policy config server (r.without "style")).result)) ∧
    (∀ server,
      (∀ s, (fetch config server).result = .ok s →
        (snapshotData config server).result = .ok (.ofJson 200 s.toJson)) ∧
      (∀ cause, (fetch config server).result = .error (.unavailable cause) →
        (snapshotData config server).result = .ok (.ofJson 502 (errorJson cause.message)))) := by
  refine ⟨?_, ?_, ?_⟩
  · intro f hfields server
    constructor
    · rw [overview, Run.result_bind_error hfields]
    · rw [chartsData, Run.result_bind_error hfields]
  · intro query hfields
    constructor
    · intro style hstyle server
      constructor
      · intro cookies hcookies
        exact ⟨fun s => showState_of_fetch hconfig hfields hcookies hstyle,
          fun cause => showReason_of_fetch hconfig hfields hcookies hstyle⟩
      · intro f hcookies
        exact ⟨result_overview_of_unreadable hfields hcookies,
          chartsData_of_unreadable hconfig hfields hcookies hstyle server⟩
    · intro asked hasked server
      exact ⟨chartsData_of_namesNoPreset hfields hasked server,
        overview_of_namesNoPreset hconfig hfields hasked server⟩
  · intro server
    exact ⟨fun s => result_snapshotData_of_ok, fun cause => result_snapshotData_of_unavailable⟩

end

/-- A runtime with one wording for whatever is wrong. -/
def terseRuntime : Server.Runtime := { nesting := 300, wording := fun _ => "invalid" }

/-- The configuration of an address with a surrogate. -/
def unwritableConfig : Config :=
  { Config.default terseRuntime with
    address := .text (("http://127.0.0.1:7500/" : Text) ++ [0xDCFF]) }

/-- A request for the page without anything else. -/
def plainRequest : Request :=
  { method := "GET", host := "localhost", path := "/", query := [], cookies := [] }

/-- The reason why there is no state at an address with a surrogate. -/
def unwritableCause : Server.Unavailable :=
  .notJson (("http://127.0.0.1:7500/" : Text) ++ (0xDCFF : CodePoint) :: ("/api/serverinfo" : Text))

/-- The data gives the reason, while the page does not answer. -/
theorem views_at_unwritable_address :
    (chartsData Policy.default unwritableConfig (.fails "refused") plainRequest).result =
        .ok (.ofJson 502 (errorJson unwritableCause.message)) ∧
      ¬ ∃ response,
        (overviewPage Policy.default unwritableConfig (.fails "refused") plainRequest).result =
          .ok response := by
  have hconfig : unwritableConfig.chartStyle = .text "rich" := rfl
  have hcookies : plainRequest.readCookies = .ok [] := rfl
  rcases @views_agree Policy.default unwritableConfig "rich" plainRequest hconfig with
    ⟨_, hviews, _⟩
  rcases (hviews [] rfl).1 (presetOf "rich") (.unnamed (.inl rfl)) (.fails "refused") with
    ⟨hreadable, _⟩
  rcases (hreadable [] hcookies).2 unwritableCause rfl with ⟨o, hshow⟩
  have hsurrogate : ¬ unwritableCause.message.IsWritable := by
    intro hwritable
    have hclear := hwritable 0xDCFF (by decide)
    cases hclear
  exact ⟨hshow.data, fun hanswers => hsurrogate (hshow.answers.mp hanswers)⟩

end Site
end TunnelBoard
