import TunnelBoard.Proofs.Chart.SameDrawing
import TunnelBoard.Proofs.Site.Styles

/-!
# The theme of a request

The theme is named by the query of a request, by a cookie or by the configuration:
by the first of them that gives a text.  A text that names no theme stands for the
light one, and those behind it are not asked.

So there are as many pages of a state as there are themes and styles.  Each has the
colors of its theme, in its markup as well as in its charts, and no text that may
name a theme is a part of it.
-/

namespace TunnelBoard
namespace Site

/-!
# Names of themes
-/

namespace Theme

def all : List Theme := [light, dark]

/-- A text is the name of a theme, with blanks around it and in any case. -/
structure IsNamedBy (theme : Theme) (t : Text) : Prop where
  known : theme ∈ all
  name : t.trim.lower = theme.name

/-- The theme that a text stands for: the one it names, or the light one if it names none. -/
inductive IsSelectedBy (t : Text) : Theme → Prop where
  | named {theme : Theme} (named : theme.IsNamedBy t) : IsSelectedBy t theme
  | unnamed (unknown : ∀ theme : Theme, ¬ theme.IsNamedBy t) : IsSelectedBy t light

theorem isNamedBy_iff (theme : Theme) (t : Text) :
    theme.IsNamedBy t ↔ ofName? t.trim.lower = some theme := by
  constructor
  · intro h
    rcases h with ⟨hknown, hname⟩
    rw [hname]
    rcases List.mem_pair.mp hknown with hlight | hdark
    · rw [hlight]
      rfl
    · rw [hdark]
      rfl
  · intro h
    rcases ofName?_cases t.trim.lower with ⟨hname, hlight⟩ | ⟨hname, hdark⟩ | hnone
    · rw [hlight] at h
      cases h
      exact ⟨List.mem_cons_self, hname⟩
    · rw [hdark] at h
      cases h
      exact ⟨List.mem_cons_of_mem _ List.mem_cons_self, hname⟩
    · rw [hnone] at h
      cases h

theorem isSelectedBy_ofName (t : Text) : (ofName t.trim.lower).IsSelectedBy t := by
  rw [ofName_eq_getD]
  cases h : ofName? t.trim.lower with
  | some theme => exact .named ((isNamedBy_iff theme t).mpr h)
  | none =>
      apply IsSelectedBy.unnamed
      intro theme hnamed
      rw [(isNamedBy_iff theme t).mp hnamed] at h
      cases h

/-- No text is given, or an empty one. -/
def IsSilent (given : Option Text) : Prop := given = none ∨ given = some []

/-- The text that decides on the theme. -/
inductive Decides (query cookie : Option Text) (setting : Option Value) : Text → Prop where
  | query {t : Text} (given : query = some t) (filled : t ≠ []) : Decides query cookie setting t
  | cookie {t : Text} (unasked : IsSilent query) (given : cookie = some t) (filled : t ≠ []) :
      Decides query cookie setting t
  | setting {v : Value} (unasked : IsSilent query) (unset : IsSilent cookie)
      (given : setting = some v) : Decides query cookie setting v.plain
  | nothing (unasked : IsSilent query) (unset : IsSilent cookie) (unconfigured : setting = none) :
      Decides query cookie setting light.name

theorem isSilent_or_given (given : Option Text) :
    IsSilent given ∨ ∃ t, given = some t ∧ t ≠ [] := by
  cases given with
  | none => exact .inl (.inl rfl)
  | some t =>
      cases t with
      | nil => exact .inl (.inr rfl)
      | cons c rest => exact .inr ⟨c :: rest, rfl, nofun⟩

theorem exists_decides (query cookie : Option Text) (setting : Option Value) :
    ∃ t, Decides query cookie setting t := by
  rcases isSilent_or_given query with hquery | ⟨t, hquery, hfilled⟩
  · rcases isSilent_or_given cookie with hcookie | ⟨t, hcookie, hfilled⟩
    · cases setting with
      | none => exact ⟨_, .nothing hquery hcookie rfl⟩
      | some v => exact ⟨_, .setting hquery hcookie rfl⟩
    · exact ⟨t, .cookie hquery hcookie hfilled⟩
  · exact ⟨t, .query hquery hfilled⟩

theorem Decides.requested_eq {query cookie : Option Text} {setting : Option Value} {t : Text}
    (h : Decides query cookie setting t) : requested query cookie setting = t.trim.lower := by
  unfold requested
  cases h with
  | query given filled =>
      rw [given, firstGiven_cons_of_filled filled]
      rfl
  | cookie unasked given filled =>
      rw [firstGiven_cons_of_silent unasked, given, firstGiven_cons_of_filled filled]
      rfl
  | setting unasked unset given =>
      rw [firstGiven_cons_of_silent unasked, firstGiven_cons_of_silent unset, given]
      rfl
  | nothing unasked unset unconfigured =>
      rw [firstGiven_cons_of_silent unasked, firstGiven_cons_of_silent unset, unconfigured]
      rfl

end Theme

/-!
# Colors of the markup

The colors of a theme stand in the opening of a page, and there is no other style
sheet.
-/

namespace Page

/-- The markup of a page has the name and the colors of a theme, and its script has charts. -/
structure IsColored (theme : Theme) (charts : Json) (page : Text) : Prop where
  opening : openingOutline theme <+: Html.tagged page
  sheets : Html.contents "style" page = Html.behind "style" (openingOutline theme)
  tags : ∃ banner, (Html.tagged page).map Prod.fst = tags theme banner
  script : Html.contents "script id=\"chart-options\" type=\"application/json\"" page =
    [Html.escapeScript charts.render]

theorem behind_style (theme : Theme) (s : Snapshot) (error : Option Text)
    (received sent charts : Text) :
    Html.behind "style" (outline theme s error received sent charts) =
      Html.behind "style" (openingOutline theme) := by
  have hheading : Html.behind "style" (headingOutline s.version (shownError error)) = [] := by
    cases shownError error <;> rfl
  have hrow : ∀ behind entry, Html.behind "style" (rowOutline behind entry) = [] :=
    fun _ _ => rfl
  have htable : Html.behind "style" [("table", "\n    ")] = [] := rfl
  have hrows : ∀ entries : List (Text × Text),
      Html.behind "style" (entries.flatMap (rowOutline "\n    ")) = [] := by
    intro entries
    rw [Html.behind_flatMap]
    exact List.flatMap_eq_nil_iff.mpr fun entry _ => hrow _ entry
  have hplaces : Html.behind "style" placesOutline = [] := rfl
  have hscript : Html.behind "style" (scriptOutline charts) = [] := rfl
  have hending : Html.behind "style" endingOutline = [] := rfl
  simp only [outline, tableOutline, Html.behind_append, hheading, htable, hrows, hrow, hplaces,
    hscript, hending, List.append_nil]

theorem tagged_of_render {theme : Theme} (htheme : theme = Theme.light ∨ theme = Theme.dark)
    {s : Snapshot} {error : Option Text} {charts page : Text}
    (h : render theme s error charts = .ok page) :
    ∃ received sent, Html.tagged page = outline theme s error received sent charts := by
  unfold render at h
  cases hreceived : Size.ofNat .unbroken s.trafficIn with
  | error f =>
      rw [hreceived] at h
      cases h
  | ok received =>
      cases hsent : Size.ofNat .unbroken s.trafficOut with
      | error f =>
          rw [hreceived, hsent] at h
          cases h
      | ok sent =>
          rw [hreceived, hsent] at h
          have hpage := (Except.ok.inj h).symm
          rw [render_pieces htheme] at hpage
          refine ⟨received, sent, ?_⟩
          rw [hpage]
          exact Html.tagged_assemble (isTagged_outline htheme s error received sent charts)

theorem isColored_of_render {theme : Theme} (htheme : theme = Theme.light ∨ theme = Theme.dark)
    {s : Snapshot} {error : Option Text} {charts : Json} {page : Text}
    (h : render theme s error charts.render = .ok page) : IsColored theme charts page := by
  rcases tagged_of_render htheme h with ⟨received, sent, htagged⟩
  have hbehind := behind_variable htheme s error received sent charts.render
  constructor
  case opening =>
    rw [htagged]
    simp only [outline, List.append_assoc]
    exact List.prefix_append _ _
  case sheets => rw [Html.contents, htagged, behind_style]
  case tags =>
    rw [htagged]
    exact ⟨_, map_fst_outline ..⟩
  case script =>
    rw [Html.contents, htagged]
    exact hbehind.2.2.2.2

end Page

/-!
# Colors of the charts
-/

/-- Both charts show a text color, and there is nothing beside them. -/
inductive ChartsShow (textColor : Text) : Json → Prop where
  | both {traffic proxies : Json} (received : traffic.ShowsColor textColor)
      (counted : proxies.ShowsColor textColor) :
      ChartsShow textColor (.object [("traffic", traffic), ("proxyTypes", proxies)])

theorem showsColor_of_draw {chart : Chart} {d : Drawing} (h : chart.draw = .ok d) :
    d.toJson.ShowsColor chart.textColor := by
  rcases Chart.draw_eq_ok_iff.mp h with ⟨items, _, hd⟩
  rw [hd]
  exact Drawing.showsColor_dressed ..

theorem chartsShow_of_chartsJson {s : Snapshot} {textColor : Text} {style : Style} {charts : Json}
    (h : (chartsJson s textColor style).result = .ok charts) : ChartsShow textColor charts := by
  rcases Run.result_bind_eq_ok h with ⟨⟨traffic, records⟩, htraffic, h⟩
  rcases Run.result_bind_eq_ok h with ⟨_, _, h⟩
  rcases Run.result_bind_eq_ok h with ⟨received, hreceived, h⟩
  rcases Run.result_bind_eq_ok h with ⟨_, _, h⟩
  rcases Run.result_bind_eq_ok h with ⟨counted, hcounted, h⟩
  cases h
  have hcolor : traffic.textColor = textColor := by
    rw [Chart.fst_of_traffic_eq_ok htraffic]
    rfl
  refine .both ?_ (showsColor_of_draw hcounted)
  rw [← hcolor]
  exact showsColor_of_draw hreceived

/-!
# Styles

The style is a preset, whoever names it.
-/

section

variable {policy : Policy} {config : Config} {server : Server.Behavior} {r : Request}
  {query : Query} {cookies : Cookies} {style : Style}

theorem mem_presets_of_configuredStyle (h : (configuredStyle config).result = .ok style) :
    style ∈ Style.presets := by
  unfold configuredStyle at h
  split at h
  case h_1 named hvalue =>
    cases h
    cases hsetting : config.chartStyle with
    | text t =>
        rw [hsetting] at hvalue
        exact Style.mem_presets_of_ofName hvalue
    | _ =>
        rw [hsetting] at hvalue
        cases hvalue
  case h_2 =>
    cases h
    exact List.mem_cons_self
  case h_3 => cases h

theorem mem_presets_of_requestedStyle
    (h : (requestedStyle config query).result = .ok (.ok style)) : style ∈ Style.presets := by
  unfold requestedStyle at h
  split at h
  · exact Style.mem_presets_of_ofName (Except.ok.inj h)
  · rcases Run.result_bind_eq_ok h with ⟨configured, hconfigured, h⟩
    cases h
    exact mem_presets_of_configuredStyle hconfigured

theorem mem_presets_of_shownStyle (h : (shownStyle config query).result = .ok style) :
    style ∈ Style.presets := by
  rcases Run.result_bind_eq_ok h with ⟨requested, hrequested, h⟩
  cases requested with
  | ok named =>
      cases h
      exact mem_presets_of_requestedStyle hrequested
  | error f =>
      rcases Run.result_bind_eq_ok h with ⟨_, _, h⟩
      exact mem_presets_of_configuredStyle h

/-!
# Pages and charts in a theme
-/

/--
The page of a request has the colors of a theme, as do its charts, and it is one of
the pages of this theme.
-/
structure PageColored (policy : Policy) (config : Config) (server : Server.Behavior) (r : Request)
    (query : Query) (theme : Theme) (pages : Style → Except Fault Response) : Prop where
  gathered : ∀ style shown, (shownStyle config query).result = .ok style →
    (shownState config server).result = .ok shown →
      ∃ o, (overview policy config server r).result = .ok o
  context : ∀ o, (overview policy config server r).result = .ok o →
    o.theme = theme ∧ ChartsShow theme.text o.charts
  markup : ∀ response, (overviewPage policy config server r).result = .ok response →
    ∃ o, (overview policy config server r).result = .ok o ∧
      Page.IsColored theme o.charts response.body
  determined : ∀ style, (shownStyle config query).result = .ok style →
    style ∈ Style.presets ∧ (overviewPage policy config server r).result = pages style

/-- The data of the charts of a request have the text color of a theme. -/
structure DataColored (policy : Policy) (config : Config) (server : Server.Behavior) (r : Request)
    (query : Query) (theme : Theme) (data : Style → Except Fault Response) : Prop where
  answered : ∀ style s, (requestedStyle config query).result = .ok (.ok style) →
    (fetch config server).result = .ok s →
      ∃ charts, (chartsData policy config server r).result = .ok (.ofJson 200 charts)
  drawn : ∀ response, (chartsData policy config server r).result = .ok response →
    response.status = 200 → ∃ charts, response = .ofJson 200 charts ∧ ChartsShow theme.text charts
  determined : ∀ style, (requestedStyle config query).result = .ok (.ok style) →
    style ∈ Style.presets ∧ (chartsData policy config server r).result = data style

theorem pageColored_themeOf (hfields : r.fields policy = .ok query)
    (hcookies : r.readCookies = .ok cookies) :
    PageColored policy config server r query (themeOf config query cookies) fun style =>
      (overviewIn config server (themeOf config query cookies) style >>= fun o =>
        Run.ofExcept o.page).result := by
  have hcontext : ∀ o, (overview policy config server r).result = .ok o →
      o.theme = themeOf config query cookies ∧
        ChartsShow (themeOf config query cookies).text o.charts := by
    intro o ho
    rcases overview_eq_ok ho with ⟨read, kept, style, hread, hkept, htheme, _, hcharts⟩
    rw [hfields] at hread
    rw [hcookies] at hkept
    cases hread
    cases hkept
    rw [← htheme]
    exact ⟨rfl, chartsShow_of_chartsJson hcharts⟩
  constructor
  case gathered =>
    intro style shown hstyle hshown
    have hpreset := Style.isSendable_of_mem_presets (mem_presets_of_shownStyle hstyle)
    exact exists_overview hfields hcookies hpreset hstyle hshown
  case context => exact hcontext
  case markup =>
    intro response hresponse
    rcases Run.result_bind_eq_ok hresponse with ⟨o, ho, hpage⟩
    have hrender := render_of_page hpage
    refine ⟨o, ho, ?_⟩
    rw [(hcontext o ho).1] at hrender
    exact Page.isColored_of_render (Theme.ofName_cases _) hrender
  case determined =>
    intro style hstyle
    refine ⟨mem_presets_of_shownStyle hstyle, ?_⟩
    rw [overviewPage, overview_eq hfields hcookies, bind_assoc, Run.result_bind_ok hstyle]

theorem dataColored_themeOf (hfields : r.fields policy = .ok query)
    (hcookies : r.readCookies = .ok cookies) :
    DataColored policy config server r query (themeOf config query cookies) fun style =>
      (chartsIn config server (.ok (themeOf config query cookies)) style).result := by
  have hdetermined : ∀ style, (requestedStyle config query).result = .ok (.ok style) →
      (chartsData policy config server r).result =
        (chartsIn config server (.ok (themeOf config query cookies)) style).result := by
    intro style hstyle
    rw [result_chartsData hfields hstyle, requestedTheme_eq_ok config query hcookies]
  constructor
  case answered =>
    intro style s hstyle hfetch
    have hpreset := Style.isSendable_of_mem_presets (mem_presets_of_requestedStyle hstyle)
    exact exists_chartsData hfields hcookies hpreset hstyle hfetch
  case drawn =>
    intro response hresponse hstatus
    cases hrequested : (requestedStyle config query).result with
    | error f =>
        rw [chartsData, Run.result_bind_ok hfields, Run.result_bind_error hrequested] at hresponse
        cases hresponse
    | ok requested =>
        cases requested with
        | error f =>
            rw [chartsData, Run.result_bind_ok hfields, Run.result_bind_ok hrequested] at hresponse
            cases hresponse
            cases hstatus
        | ok style =>
            rw [hdetermined style hrequested] at hresponse
            rcases chartsIn_eq_ok hresponse with
              hother | ⟨s, theme, charts, _, htheme, hcharts, heq⟩
            · rw [hstatus] at hother
              cases hother
            · cases htheme
              exact ⟨charts, heq, chartsShow_of_chartsJson hcharts⟩
  case determined =>
    intro style hstyle
    exact ⟨mem_presets_of_requestedStyle hstyle, hdetermined style hstyle⟩

end

def Config.withTheme (config : Config) (setting : Option Value) : Config :=
  { config with theme := setting }

/--
The query, the cookies and the configuration decide on one theme: the one that is
named by the first text that they give, or the light one if it names none.  The
page of every request with this query and these cookies has the colors of this
theme in its markup and in its charts, and so have the data of its charts.

Nothing else of these texts can be seen.  There is one page for each theme and each
preset, the same for all requests and all configured themes, and so it is with the
data.
-/
theorem themes_of_requests (policy : Policy) (config : Config) (server : Server.Behavior) :
    ∃ pages data : Theme → Style → Except Fault Response,
      ∀ (setting : Option Value) (query : Query) (cookies : Cookies), ∃ t theme,
        Theme.Decides (query.last? "theme") (cookies.last? themeCookie) setting t ∧
          theme.IsSelectedBy t ∧
            ∀ r : Request, r.fields policy = .ok query → r.readCookies = .ok cookies →
              requestedTheme (config.withTheme setting) query r = .ok theme ∧
              PageColored policy (config.withTheme setting) server r query theme (pages theme) ∧
              DataColored policy (config.withTheme setting) server r query theme (data theme) := by
  refine ⟨fun theme style =>
      (overviewIn config server theme style >>= fun o => Run.ofExcept o.page).result,
    fun theme style => (chartsIn config server (.ok theme) style).result, ?_⟩
  intro setting query cookies
  rcases Theme.exists_decides (query.last? "theme") (cookies.last? themeCookie) setting with
    ⟨t, hdecides⟩
  have hname : themeOf (config.withTheme setting) query cookies = Theme.ofName t.trim.lower := by
    rw [← hdecides.requested_eq]
    rfl
  refine ⟨t, themeOf (config.withTheme setting) query cookies, hdecides, ?_, ?_⟩
  · rw [hname]
    exact Theme.isSelectedBy_ofName t
  · intro r hfields hcookies
    exact ⟨requestedTheme_eq_ok _ query hcookies, pageColored_themeOf hfields hcookies,
      dataColored_themeOf hfields hcookies⟩

def blankThemeRequest : Request :=
  { plainRequest with query := "theme=+", cookies := "frps_theme=dark" }

def darkThemeRequest : Request := { plainRequest with cookies := "frps_theme=\" DARK\"" }

/-- A blank name in the query gives the light theme, although there is one in a cookie. -/
theorem themes_of_blank_and_dark :
    (∃ o, (overview Policy.default ((Config.default terseRuntime).withTheme (some (.text "dark")))
        (.garbled []) blankThemeRequest).result = .ok o ∧ o.theme = Theme.light ∧
          ChartsShow "#333" o.charts) ∧
      ∃ o, (overview Policy.default ((Config.default terseRuntime).withTheme none) (.garbled [])
        darkThemeRequest).result = .ok o ∧ o.theme = Theme.dark ∧
          ChartsShow "rgba(255, 255, 255, 0.82)" o.charts := by
  rcases themes_of_requests Policy.default (Config.default terseRuntime) (.garbled []) with
    ⟨pages, data, h⟩
  have hshown : ∀ setting, ∃ shown,
      (shownState ((Config.default terseRuntime).withTheme setting) (.garbled [])).result = .ok shown :=
    fun _ => ⟨_, rfl⟩
  constructor
  · rcases h (some (.text "dark")) [("theme", " ")] [("frps_theme", "dark")] with
      ⟨t, theme, _, _, hrequests⟩
    rcases hrequests blankThemeRequest (by decide +kernel) (by decide +kernel) with
      ⟨htheme, hpage, _⟩
    have hlight : requestedTheme ((Config.default terseRuntime).withTheme (some (.text "dark")))
        [("theme", " ")] blankThemeRequest = .ok Theme.light := by
      decide +kernel
    rw [hlight] at htheme
    cases htheme
    rcases hshown (some (.text "dark")) with ⟨shown, hstate⟩
    rcases hpage.gathered Style.rich shown rfl hstate with ⟨o, ho⟩
    exact ⟨o, ho, hpage.context o ho⟩
  · rcases h none [] [("frps_theme", " DARK")] with ⟨t, theme, _, _, hrequests⟩
    rcases hrequests darkThemeRequest (by decide +kernel) (by decide +kernel) with
      ⟨htheme, hpage, _⟩
    have hdark : requestedTheme ((Config.default terseRuntime).withTheme none) []
        darkThemeRequest = .ok Theme.dark := by
      decide +kernel
    rw [hdark] at htheme
    cases htheme
    rcases hshown none with ⟨shown, hstate⟩
    rcases hpage.gathered Style.rich shown rfl hstate with ⟨o, ho⟩
    exact ⟨o, ho, hpage.context o ho⟩

end Site
end TunnelBoard
