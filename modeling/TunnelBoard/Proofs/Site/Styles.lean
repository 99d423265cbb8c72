import TunnelBoard.Proofs.Site.Answers
import TunnelBoard.Proofs.Site.Records

/-!
# The style of a request

A style is named by the query of a request or by the configuration.  A name that
is none is blamed on whoever gave it: a name in a query is an error of the data of
the charts, while one in the configuration is only logged and gives the rich
style.  The page has a style in any case.

So the configuration has no say in which status a response has, and no style has
a say in whether there is a page.
-/

namespace TunnelBoard

/-!
# Names of styles
-/

namespace Style

def presets : List Style := [rich, plain]

/-- A text is the name of a preset, with blanks around it and in any case. -/
structure IsNamedBy (style : Style) (t : Text) : Prop where
  preset : style ∈ presets
  name : t.trim.lower = style.key

theorem isNamedBy_iff (style : Style) (t : Text) :
    style.IsNamedBy t ↔ ofName? t = some style := by
  unfold ofName?
  constructor
  · intro h
    rcases h with ⟨hpreset, hname⟩
    rcases List.mem_pair.mp hpreset with hrich | hplain
    · rw [hrich] at hname ⊢
      exact if_pos hname
    · rw [hplain] at hname ⊢
      have hother : t.trim.lower ≠ rich.key := by
        rw [hname]
        decide
      dsimp only
      rw [if_neg hother, if_pos hname]
  · intro h
    dsimp only at h
    split at h
    · rename_i hname
      cases h
      exact ⟨List.mem_cons_self, hname⟩
    · split at h
      · rename_i hname
        cases h
        exact ⟨List.mem_cons_of_mem _ List.mem_cons_self, hname⟩
      · cases h

theorem mem_presets_of_ofName {t : Text} {style : Style} (h : ofName t = .ok style) :
    style ∈ presets := by
  unfold ofName at h
  cases hname : ofName? t with
  | none =>
      rw [hname] at h
      cases h
  | some named =>
      rw [hname] at h
      cases h
      exact ((isNamedBy_iff style t).mpr hname).preset

theorem isSendable_of_mem_presets {style : Style} (h : style ∈ presets) : style.IsSendable := by
  rcases List.mem_pair.mp h with hrich | hplain
  · rw [hrich]
    exact isSendable_rich
  · rw [hplain]
    exact isSendable_plain

theorem ofName?_eq_none_of_forall {t : Text} (h : ∀ style : Style, ¬ style.IsNamedBy t) :
    ofName? t = none := by
  cases hstyle : ofName? t with
  | none => rfl
  | some style => exact absurd ((isNamedBy_iff style t).mpr hstyle) (h style)

end Style

/-!
# Statuses of runs
-/

/-- The status of a response, and the fault that it is a page about. -/
def Site.Response.outcome (response : Site.Response) : Nat × Option Fault :=
  (response.status, response.about)

namespace Run

/--
Two runs end with the same fault, or with responses of the same status that are
pages about the same fault, if they are pages about one.
-/
def SameStatus (one other : Run Site.Response) : Prop :=
  one.result.map Site.Response.outcome = other.result.map Site.Response.outcome

theorem SameStatus.cases {one other : Run Site.Response} (h : one.SameStatus other) :
    (∃ f, one.result = .error f ∧ other.result = .error f) ∨
      ∃ x y, one.result = .ok x ∧ other.result = .ok y ∧ x.outcome = y.outcome := by
  unfold SameStatus at h
  cases hone : one.result with
  | error f =>
      cases hother : other.result with
      | error g =>
          rw [hone, hother] at h
          cases h
          exact .inl ⟨f, rfl, rfl⟩
      | ok y =>
          rw [hone, hother] at h
          cases h
  | ok x =>
      cases hother : other.result with
      | error g =>
          rw [hone, hother] at h
          cases h
      | ok y =>
          rw [hone, hother] at h
          exact .inr ⟨x, y, rfl, rfl, Except.ok.inj h⟩

theorem sameStatus_bind {α : Type} {run : Run α} {one other : α → Run Site.Response}
    (h : ∀ a, run.result = .ok a → (one a).SameStatus (other a)) :
    (run >>= one).SameStatus (run >>= other) := by
  rw [SameStatus, result_bind, result_bind]
  cases hresult : run.result with
  | error f => rfl
  | ok a => exact h a hresult

end Run

namespace Site

/-!
# Styles of requests
-/

def Config.withStyle (config : Config) (setting : Text) : Config :=
  { config with chartStyle := .text setting }

/-- The record of a setting that names no preset. -/
def unknownSetting (setting : Text) : Log.Record :=
  ⟨.warning, .pages,
    "Invalid FRPS_DASHBOARD_CHART_STYLE, using 'rich': " ++
      (Fault.unknownStyle setting.quoted).message⟩

/-- The record of a request for a page in a style that is no preset. -/
def unknownRequest (asked : Text) : Log.Record :=
  ⟨.info, .pages,
    "Falling back to the configured chart style: " ++ (Fault.unknownStyle asked.quoted).message⟩

/-- The style that a setting configures, and the records of it. -/
inductive Configures (setting : Text) : Style → List Log.Record → Prop where
  | named {style : Style} (known : style.IsNamedBy setting) : Configures setting style []
  | unnamed (unknown : ∀ style : Style, ¬ style.IsNamedBy setting) :
      Configures setting Style.rich [unknownSetting setting]

theorem exists_configures (setting : Text) :
    ∃ records, Configures setting (presetOf setting) records := by
  unfold presetOf
  cases h : Style.ofName? setting with
  | some style => exact ⟨_, .named ((Style.isNamedBy_iff style setting).mpr h)⟩
  | none =>
      refine ⟨_, .unnamed ?_⟩
      intro style hstyle
      rw [(Style.isNamedBy_iff style setting).mp hstyle] at h
      cases h

section

variable {setting asked : Text} {style : Style} {records : List Log.Record} {query : Query}

theorem picks_configuredStyle (config : Config) (h : Configures setting style records) :
    (configuredStyle (config.withStyle setting)).Picks style records := by
  have hvalue : Style.ofValue (config.withStyle setting).chartStyle = Style.ofName setting := rfl
  rw [configuredStyle, hvalue, Style.ofName]
  cases h with
  | named known =>
      rw [(Style.isNamedBy_iff style setting).mp known]
      exact ⟨rfl, rfl⟩
  | unnamed unknown =>
      rw [Style.ofName?_eq_none_of_forall unknown]
      exact ⟨rfl, rfl⟩

theorem requestedStyle_of_given (config : Config) (hgiven : query.last? "style" = some asked)
    (hasked : asked ≠ []) : requestedStyle config query = pure (Style.ofName asked) := by
  rw [requestedStyle, hgiven, Theme.firstGiven_cons_of_filled hasked]

theorem requestedStyle_of_isNamedBy (config : Config) (hgiven : query.last? "style" = some asked)
    (hnamed : style.IsNamedBy asked) : requestedStyle config query = pure (.ok style) := by
  have hknown := (Style.isNamedBy_iff style asked).mp hnamed
  have hasked : asked ≠ [] := by
    intro hnil
    rw [hnil] at hknown
    cases hknown
  rw [requestedStyle_of_given config hgiven hasked, Style.ofName, hknown]

theorem requestedStyle_of_unknown (config : Config) (hgiven : query.last? "style" = some asked)
    (hasked : asked ≠ []) (hunknown : ∀ style : Style, ¬ style.IsNamedBy asked) :
    requestedStyle config query = pure (.error (.unknownStyle asked.quoted)) := by
  rw [requestedStyle_of_given config hgiven hasked, Style.ofName,
    Style.ofName?_eq_none_of_forall hunknown]

theorem picks_requestedStyle_of_absent (config : Config)
    (habsent : query.last? "style" = none ∨ query.last? "style" = some [])
    (h : Configures setting style records) :
    (requestedStyle (config.withStyle setting) query).Picks (.ok style) records := by
  have hnone : Theme.firstGiven [query.last? "style"] = none :=
    Theme.firstGiven_cons_of_silent habsent []
  have hpicks : (configuredStyle (config.withStyle setting) >>= fun style =>
      (pure (.ok style) : Run (Except Fault Style))).Picks (.ok style) (records ++ []) :=
    (picks_configuredStyle config h).bind (Run.picks_pure _)
  rw [List.append_nil] at hpicks
  rw [requestedStyle, hnone]
  exact hpicks

theorem picks_shownStyle {config : Config}
    (h : (requestedStyle config query).Picks (.ok style) records) :
    (shownStyle config query).Picks style records := by
  have hpicks : (shownStyle config query).Picks style (records ++ []) :=
    h.bind (Run.picks_pure style)
  rw [List.append_nil] at hpicks
  exact hpicks

theorem picks_shownStyle_of_unknown (config : Config)
    (hgiven : query.last? "style" = some asked) (hasked : asked ≠ [])
    (hunknown : ∀ style : Style, ¬ style.IsNamedBy asked)
    (h : Configures setting style records) :
    (shownStyle (config.withStyle setting) query).Picks style
      (unknownRequest asked :: records) := by
  rw [shownStyle, requestedStyle_of_unknown _ hgiven hasked hunknown, pure_bind]
  have hrecord : (Run.log .info .pages (unknownRequest asked).message).Picks ()
      [unknownRequest asked] := ⟨rfl, rfl⟩
  exact hrecord.bind (picks_configuredStyle config h)

end

/-!
# The views of a style

What is left of each view once its style is known.
-/

section

variable {config : Config} {server : Server.Behavior} {policy : Policy} {r : Request}
  {query : Query} {cookies : Cookies} {style : Style} {records : List Log.Record}

def overviewIn (config : Config) (server : Server.Behavior) (theme : Theme) (style : Style) :
    Run Overview := do
  let (snapshot, error) ← shownState config server
  let charts ← chartsJson snapshot theme.text style
  pure { theme, snapshot, error, style := style.key, charts }

def chartsIn (config : Config) (server : Server.Behavior) (theme : Except Fault Theme)
    (style : Style) : Run Response := do
  match ← tryFetch config server with
  | .error cause => pure (.ofJson 502 (errorJson cause.message))
  | .ok s => do
      let theme ← Run.ofExcept theme
      let charts ← chartsJson s theme.text style
      pure (.ofJson 200 charts)

theorem overview_eq (hfields : r.fields policy = .ok query)
    (hcookies : r.readCookies = .ok cookies) :
    overview policy config server r =
      shownStyle config query >>= overviewIn config server (themeOf config query cookies) := by
  rw [overview, hfields]
  change ((pure query : Run _) >>= _) = _
  rw [pure_bind, requestedTheme_eq_ok config query hcookies]
  change ((pure _ : Run _) >>= _) = _
  rw [pure_bind]
  rfl

theorem result_chartsData (hfields : r.fields policy = .ok query)
    (hstyle : (requestedStyle config query).result = .ok (.ok style)) :
    (chartsData policy config server r).result =
      (chartsIn config server (requestedTheme config query r) style).result := by
  rw [chartsData, Run.result_bind_ok hfields, Run.result_bind_ok hstyle]
  rfl

theorem chartsIn_eq_ok {theme : Except Fault Theme} {response : Response}
    (h : (chartsIn config server theme style).result = .ok response) :
    response.status = 502 ∨ ∃ s colors charts, (fetch config server).result = .ok s ∧
      theme = .ok colors ∧ (chartsJson s colors.text style).result = .ok charts ∧
        response = .ofJson 200 charts := by
  rcases Run.result_bind_eq_ok h with ⟨outcome, htry, h⟩
  cases outcome with
  | error cause =>
      cases h
      exact .inl rfl
  | ok s =>
      rcases Run.result_bind_eq_ok h with ⟨colors, htheme, h⟩
      rcases Run.result_bind_eq_ok h with ⟨charts, hcharts, h⟩
      cases h
      exact .inr ⟨s, colors, charts, result_fetch_of_tryFetch htry, htheme, hcharts, rfl⟩

theorem isMerged_of_shownState {shown : Snapshot × Option Text}
    (h : (shownState config server).result = .ok shown) : shown.1.proxies.IsMerged := by
  rcases (@shownState_eq_ok config server shown.1 shown.2 h).1 with ⟨entries, hentries⟩
  rw [hentries]
  exact Snapshot.isMerged_proxies_ofEntries entries

theorem exists_overview (hfields : r.fields policy = .ok query)
    (hcookies : r.readCookies = .ok cookies) (hpreset : style.IsSendable)
    (hstyle : (shownStyle config query).result = .ok style) {shown : Snapshot × Option Text}
    (hshown : (shownState config server).result = .ok shown) :
    ∃ o, (overview policy config server r).result = .ok o := by
  rcases chartsJson_eq_ok (isMerged_of_shownState hshown)
    (isWritable_themeOf config query cookies).text hpreset with ⟨charts, hcharts, _⟩
  exact ⟨_, result_overview_of_ok hfields hcookies hstyle hshown hcharts⟩

theorem exists_chartsData (hfields : r.fields policy = .ok query)
    (hcookies : r.readCookies = .ok cookies) (hpreset : style.IsSendable)
    (hstyle : (requestedStyle config query).result = .ok (.ok style)) {s : Snapshot}
    (hfetch : (fetch config server).result = .ok s) :
    ∃ charts, (chartsData policy config server r).result = .ok (.ofJson 200 charts) := by
  rcases chartsJson_eq_ok (isMerged_of_fetch hfetch)
    (isWritable_themeOf config query cookies).text hpreset with ⟨charts, hcharts, _⟩
  refine ⟨charts, ?_⟩
  rw [result_chartsData hfields hstyle, chartsIn,
    Run.result_bind_ok (result_tryFetch_of_ok hfetch)]
  dsimp only
  rw [Run.result_bind_ok (requestedTheme_eq_ok config query hcookies), Run.result_bind_ok hcharts]
  rfl

theorem logsOnly_overviewIn (config : Config) (server : Server.Behavior) (theme : Theme)
    (style : Style) :
    (overviewIn config server theme style).LogsOnly fun record => record.source ≠ .pages := by
  apply (logsOnly_shownState config server).bind
  intro shown
  exact (logsOnly_chartsJson _ _ _).bind fun _ => Run.logsOnly_of_nil rfl

theorem logsOnly_chartsIn (config : Config) (server : Server.Behavior)
    (theme : Except Fault Theme) (style : Style) :
    (chartsIn config server theme style).LogsOnly fun record => record.source ≠ .pages := by
  apply (logsOnly_tryFetch config server).bind
  intro outcome
  cases outcome with
  | error cause => exact Run.logsOnly_of_nil rfl
  | ok s =>
      apply (Run.logsOnly_of_nil rfl).bind
      intro theme
      exact (logsOnly_chartsJson _ _ _).bind fun _ => Run.logsOnly_of_nil rfl

/-- A page is drawn in a style, after certain records of the page. -/
structure PageUses (policy : Policy) (config : Config) (server : Server.Behavior) (r : Request)
    (style : Style) (records : List Log.Record) : Prop where
  gathered : ∀ cookies shown, r.readCookies = .ok cookies →
    (shownState config server).result = .ok shown →
      ∃ o, (overview policy config server r).result = .ok o
  drawn : ∀ o, (overview policy config server r).result = .ok o →
    o.style = style.key ∧ (chartsJson o.snapshot o.theme.text style).result = .ok o.charts
  logged : ∀ cookies, r.readCookies = .ok cookies →
    ∃ rest, (overviewPage policy config server r).trace.logs = records ++ rest ∧
      ∀ record ∈ rest, record.source ≠ .pages

/-- The data of the charts are drawn in a style, after certain records of the page. -/
structure DataUses (policy : Policy) (config : Config) (server : Server.Behavior) (r : Request)
    (style : Style) (records : List Log.Record) : Prop where
  answered : ∀ cookies s, r.readCookies = .ok cookies → (fetch config server).result = .ok s →
    ∃ charts, (chartsData policy config server r).result = .ok (.ofJson 200 charts)
  drawn : ∀ response, (chartsData policy config server r).result = .ok response →
    response.status = 502 ∨ ∃ s textColor charts, (fetch config server).result = .ok s ∧
      (chartsJson s textColor style).result = .ok charts ∧ response = .ofJson 200 charts
  logged : ∃ rest, (chartsData policy config server r).trace.logs = records ++ rest ∧
    ∀ record ∈ rest, record.source ≠ .pages

theorem pageUses_of_picks (hfields : r.fields policy = .ok query) (hstyle : style.IsSendable)
    (h : (shownStyle config query).Picks style records) :
    PageUses policy config server r style records := by
  constructor
  case gathered =>
    intro cookies shown hcookies hshown
    exact exists_overview hfields hcookies hstyle h.result hshown
  case drawn =>
    intro o ho
    cases hcookies : r.readCookies with
    | error f =>
        rw [result_overview_of_unreadable hfields hcookies] at ho
        cases ho
    | ok cookies =>
        rw [overview_eq hfields hcookies, Run.result_bind_ok h.result] at ho
        rcases Run.result_bind_eq_ok ho with ⟨⟨s, error⟩, _, ho⟩
        rcases Run.result_bind_eq_ok ho with ⟨charts, hcharts, ho⟩
        cases ho
        exact ⟨rfl, hcharts⟩
  case logged =>
    intro cookies hcookies
    rw [overviewPage, overview_eq hfields hcookies, bind_assoc]
    apply h.exists_logs
    exact (logsOnly_overviewIn _ _ _ _).bind fun _ => Run.logsOnly_of_nil rfl

theorem dataUses_of_picks (hfields : r.fields policy = .ok query) (hstyle : style.IsSendable)
    (h : (requestedStyle config query).Picks (.ok style) records) :
    DataUses policy config server r style records := by
  constructor
  case answered =>
    intro cookies s hcookies hfetch
    exact exists_chartsData hfields hcookies hstyle h.result hfetch
  case drawn =>
    intro response hresponse
    rw [result_chartsData hfields h.result] at hresponse
    rcases chartsIn_eq_ok hresponse with hstatus | ⟨s, theme, charts, hfetch, _, hcharts, heq⟩
    · exact .inl hstatus
    · exact .inr ⟨s, theme.text, charts, hfetch, hcharts, heq⟩
  case logged =>
    rw [chartsData, hfields]
    change ∃ rest, ((pure query : Run _) >>= _).trace.logs = _ ∧ _
    rw [pure_bind]
    exact h.exists_logs (logsOnly_chartsIn config server _ style)

end

/-!
# The status

Any two presets can be drawn, so no style has a say in the status.
-/

/-- The charts of a page have no say in whether it can be sent. -/
theorem Overview.outcome_page (o : Overview) :
    o.page.map Response.outcome =
      ((Page.front o.theme o.snapshot o.error).bind writable).map fun _ => (200, none) := by
  unfold page
  rw [Page.render_eq_front]
  cases hfront : Page.front o.theme o.snapshot o.error with
  | error f => rfl
  | ok t =>
      show Except.map Response.outcome (writable (t ++ _) >>= _) = (writable t).map _
      rw [Page.writable_front_append hfront (Json.isWritable_render o.charts)]
      cases writable t <;> rfl

section

variable {config : Config} {server : Server.Behavior} {policy : Policy} {r : Request}
  {query : Query} {cookies : Cookies} {name : Text} {style other : Style}

theorem outcome_overviewPage (hconfig : config.chartStyle = .text name)
    (hfields : r.fields policy = .ok query) (hcookies : r.readCookies = .ok cookies) :
    (overviewPage policy config server r).result.map Response.outcome =
      (shownState config server).result.bind fun shown =>
        ((Page.front (themeOf config query cookies) shown.1 shown.2).bind writable).map
          fun _ => (200, none) := by
  rcases exists_shownStyle hconfig query with ⟨style, hstyle, hsendable⟩
  cases hshown : (shownState config server).result with
  | error f =>
      have hoverview : (overview policy config server r).result = .error f := by
        rw [overview_eq hfields hcookies, Run.result_bind_ok hstyle, overviewIn,
          Run.result_bind_error hshown]
      rw [overviewPage, Run.result_bind_error hoverview]
      rfl
  | ok shown =>
      have hcolor := (isWritable_themeOf config query cookies).text
      rcases chartsJson_eq_ok (isMerged_of_shownState hshown) hcolor hsendable with
        ⟨charts, hcharts, _⟩
      rw [result_page (result_overview_of_ok hfields hcookies hstyle hshown hcharts),
        Overview.outcome_page]
      rfl

theorem overviewPage_of_unreadable (hfields : r.fields policy = .ok query) {f : Fault}
    (hcookies : r.readCookies = .error f) :
    (overviewPage policy config server r).result = .error f := by
  rw [overviewPage, Run.result_bind_error (result_overview_of_unreadable hfields hcookies)]

theorem requestedTheme_eq_themeOf {theme : Theme}
    (h : requestedTheme config query r = .ok theme) :
    ∃ cookies, r.readCookies = .ok cookies ∧ theme = themeOf config query cookies := by
  cases hcookies : r.readCookies with
  | error f =>
      rw [requestedTheme, hcookies] at h
      cases h
  | ok cookies =>
      rw [requestedTheme_eq_ok config query hcookies] at h
      exact ⟨cookies, rfl, (Except.ok.inj h).symm⟩

theorem sameStatus_chartsIn (hstyle : style.IsSendable) (hother : other.IsSendable) :
    (chartsIn config server (requestedTheme config query r) style).SameStatus
      (chartsIn config server (requestedTheme config query r) other) := by
  apply Run.sameStatus_bind
  intro outcome htry
  cases outcome with
  | error cause => rfl
  | ok s =>
      have hmerged := isMerged_of_fetch (result_fetch_of_tryFetch htry)
      apply Run.sameStatus_bind
      intro theme htheme
      rcases requestedTheme_eq_themeOf htheme with ⟨cookies, _, hof⟩
      have hcolor : theme.text.IsWritable := by
        rw [hof]
        exact (isWritable_themeOf config query cookies).text
      rcases chartsJson_eq_ok hmerged hcolor hstyle with ⟨first, hfirst, _⟩
      rcases chartsJson_eq_ok hmerged hcolor hother with ⟨second, hsecond, _⟩
      rw [Run.SameStatus, Run.result_bind_ok hfirst, Run.result_bind_ok hsecond]
      rfl

theorem HasStyle.exists_other {configured : Style} (h : HasStyle configured query style)
    (other : Style) : ∃ shown, HasStyle other query shown := by
  cases h with
  | named given known => exact ⟨_, .named given known⟩
  | unnamed absent => exact ⟨_, .unnamed absent⟩

end

section

variable (policy : Policy) (config : Config) (server : Server.Behavior) (r : Request) (a b : Text)

theorem sameStatus_chartsData :
    (chartsData policy (config.withStyle a) server r).SameStatus
      (chartsData policy (config.withStyle b) server r) := by
  unfold Run.SameStatus
  cases hfields : r.fields policy with
  | error f =>
      rw [chartsData, Run.result_bind_error hfields, chartsData, Run.result_bind_error hfields]
  | ok query =>
      rcases hasStyle_or_namesNoPreset (presetOf a) query with ⟨style, hstyle⟩ | ⟨asked, hasked⟩
      · rcases hstyle.exists_other (presetOf b) with ⟨other, hother⟩
        rw [result_chartsData hfields (result_requestedStyle_of_hasStyle rfl hstyle),
          result_chartsData hfields (result_requestedStyle_of_hasStyle rfl hother)]
        exact sameStatus_chartsIn hstyle.isSendable hother.isSendable
      · rw [chartsData_of_namesNoPreset hfields hasked, chartsData_of_namesNoPreset hfields hasked]

theorem sameStatus_overviewPage :
    (overviewPage policy (config.withStyle a) server r).SameStatus
      (overviewPage policy (config.withStyle b) server r) := by
  unfold Run.SameStatus
  cases hfields : r.fields policy with
  | error f =>
      have hoverview : ∀ setting,
          (overview policy (config.withStyle setting) server r).result = .error f := by
        intro setting
        rw [overview, Run.result_bind_error hfields]
      rw [overviewPage, Run.result_bind_error (hoverview a), overviewPage,
        Run.result_bind_error (hoverview b)]
  | ok query =>
      cases hcookies : r.readCookies with
      | error f =>
          rw [overviewPage_of_unreadable hfields hcookies,
            overviewPage_of_unreadable hfields hcookies]
      | ok cookies =>
          rw [outcome_overviewPage rfl hfields hcookies, outcome_overviewPage rfl hfields hcookies]
          rfl

/-- A request for the page has the outcome of the same request without a style. -/
theorem sameStatus_overviewPage_without {query : Query} (hfields : r.fields policy = .ok query) :
    (overviewPage policy (config.withStyle a) server r).SameStatus
      (overviewPage policy (config.withStyle a) server (r.without "style")) := by
  have hwithout := Request.fields_without hfields "style"
  unfold Run.SameStatus
  cases hcookies : r.readCookies with
  | error f =>
      have hunread : (r.without "style").readCookies = .error f := hcookies
      rw [overviewPage_of_unreadable hfields hcookies, overviewPage_of_unreadable hwithout hunread]
  | ok cookies =>
      have hread : (r.without "style").readCookies = .ok cookies := hcookies
      have htheme : themeOf (config.withStyle a) (query.filter fun f => f.1 ≠ "style") cookies =
          themeOf (config.withStyle a) query cookies := by
        rw [themeOf, Query.last?_filter_of_ne query (by decide)]
        rfl
      rw [outcome_overviewPage rfl hfields hcookies, outcome_overviewPage rfl hwithout hread,
        htheme]

theorem sameStatus_serve (route : Route) :
    (route.serve policy (config.withStyle a) server r).SameStatus
      (route.serve policy (config.withStyle b) server r) := by
  cases route with
  | overview => exact sameStatus_overviewPage policy config server r a b
  | snapshot => rfl
  | charts => exact sameStatus_chartsData policy config server r a b
  | health => rfl

/-!
# Responses
-/

variable {one other : Run Response} {pages : ErrorPages}

theorem sameStatus_response (origin : Origin) (f : Fault) :
    (pages.response ⟨policy, config.withStyle a, server, r⟩ origin f).map Response.outcome =
      (pages.response ⟨policy, config.withStyle b, server, r⟩ origin f).map
        Response.outcome := by
  unfold ErrorPages.response
  rcases pages.text_cases ⟨policy, config.withStyle a, server, r⟩
    ⟨policy, config.withStyle b, server, r⟩ rfl rfl f with
    ⟨g, hone, hother⟩ | ⟨t, u, hone, hother, _⟩
  · rw [hone, hother]
  · rw [hone, hother]
    rfl

theorem sameStatus_shielded (origin : Origin) (h : one.SameStatus other) :
    (pages.shielded ⟨policy, config.withStyle a, server, r⟩ origin one).SameStatus
      (pages.shielded ⟨policy, config.withStyle b, server, r⟩ origin other) := by
  unfold Run.SameStatus
  rcases h.cases with ⟨f, hone, hother⟩ | ⟨x, y, hone, hother, houtcome⟩
  · rw [ErrorPages.result_shielded_of_error hone, ErrorPages.result_shielded_of_error hother]
    exact sameStatus_response policy config server r a b origin f
  · rw [ErrorPages.result_shielded_of_ok hone, ErrorPages.result_shielded_of_ok hother]
    exact congrArg Except.ok houtcome

theorem sameStatus_delivered (h : one.SameStatus other) :
    (delivered r one).SameStatus (delivered r other) := by
  unfold Run.SameStatus
  rcases h.cases with ⟨f, hone, hother⟩ | ⟨x, y, hone, hother, houtcome⟩
  · rw [result_delivered_of_error hone, result_delivered_of_error hother]
  · rcases Prod.mk.inj houtcome with ⟨hstatus, habout⟩
    have hbody : ∀ response : Response,
        (if r.method = "HEAD" then { response with body := [] } else response).outcome =
          response.outcome := by
      intro response
      split <;> rfl
    have hfilter : (x.about.filter fun _ => x.status = 500) =
        y.about.filter fun _ => y.status = 500 := by
      rw [hstatus, habout]
    rw [delivered, Run.result_bind_ok hone, delivered, Run.result_bind_ok hother, hfilter]
    cases y.about.filter fun _ => y.status = 500 with
    | some f => rfl
    | none => exact congrArg Except.ok ((hbody x).trans (houtcome.trans (hbody y).symm))

theorem sameStatus_resource :
    (resource pages policy (config.withStyle a) server r).SameStatus
      (resource pages policy (config.withStyle b) server r) := by
  unfold resource
  split
  · rfl
  · split
    · exact sameStatus_serve policy config server r a b _
    · rfl

theorem sameStatus_route :
    (route pages policy (config.withStyle a) server r).SameStatus
      (route pages policy (config.withStyle b) server r) := by
  apply Run.sameStatus_bind
  intro host _
  split
  · rfl
  · split
    · rfl
    · exact sameStatus_shielded policy config server r a b .routing
        (sameStatus_shielded policy config server r a b .resource
          (sameStatus_resource policy config server r a b))

theorem sameStatus_respond :
    (respond pages policy (config.withStyle a) server r).SameStatus
      (respond pages policy (config.withStyle b) server r) := by
  apply sameStatus_shielded
  unfold secured
  split
  · rfl
  · exact sameStatus_shielded policy config server r a b .routing
      (sameStatus_route policy config server r a b)

end

/--
The page and the data of the charts are drawn in the preset that the query names;
if it names nothing, in the configured one, which is the rich one after a warning
if the setting is the name of none.  For any other query the data are an error of
the request without a record, while the page is drawn in the configured style, and
the record of the request stands before the warning.

The setting has no say in the status of any response.  Nor has the style of a query
that can be read a say in whether there is a page.
-/
theorem styles_of_requests (policy : Policy) (config : Config) (server : Server.Behavior) :
    (∀ (setting : Text) (r : Request) (query : Query), r.fields policy = .ok query →
      ∃ configured records, Configures setting configured records ∧
        (∀ (asked : Text) (style : Style), query.last? "style" = some asked →
          style.IsNamedBy asked →
            PageUses policy (config.withStyle setting) server r style [] ∧
              DataUses policy (config.withStyle setting) server r style []) ∧
        (query.last? "style" = none ∨ query.last? "style" = some [] →
          PageUses policy (config.withStyle setting) server r configured records ∧
            DataUses policy (config.withStyle setting) server r configured records) ∧
        (∀ asked : Text, query.last? "style" = some asked → asked ≠ [] →
          (∀ style : Style, ¬ style.IsNamedBy asked) →
            PageUses policy (config.withStyle setting) server r configured
              (unknownRequest asked :: records) ∧
            chartsData policy (config.withStyle setting) server r =
              pure (.ofJson 400 (errorJson (Fault.unknownStyle asked.quoted).message))) ∧
        (overviewPage policy (config.withStyle setting) server r).SameStatus
          (overviewPage policy (config.withStyle setting) server (r.without "style"))) ∧
    ∀ (pages : ErrorPages) (a b : Text) (r : Request),
      let one := respond pages policy (config.withStyle a) server r
      let other := respond pages policy (config.withStyle b) server r
      one.SameStatus other ∧ (delivered r one).SameStatus (delivered r other) := by
  constructor
  · intro setting r query hfields
    rcases exists_configures setting with ⟨records, hconfigures⟩
    refine ⟨presetOf setting, records, hconfigures, ?_, ?_, ?_, ?_⟩
    · intro asked style hgiven hnamed
      have hpicks : (requestedStyle (config.withStyle setting) query).Picks (.ok style) [] := by
        rw [requestedStyle_of_isNamedBy _ hgiven hnamed]
        exact Run.picks_pure _
      have hstyle := Style.isSendable_of_ofName? ((Style.isNamedBy_iff style asked).mp hnamed)
      exact ⟨pageUses_of_picks hfields hstyle (picks_shownStyle hpicks),
        dataUses_of_picks hfields hstyle hpicks⟩
    · intro habsent
      have hpicks := picks_requestedStyle_of_absent config habsent hconfigures
      have hstyle := isSendable_presetOf setting
      exact ⟨pageUses_of_picks hfields hstyle (picks_shownStyle hpicks),
        dataUses_of_picks hfields hstyle hpicks⟩
    · intro asked hgiven hasked hunknown
      refine ⟨pageUses_of_picks hfields (isSendable_presetOf setting)
        (picks_shownStyle_of_unknown config hgiven hasked hunknown hconfigures), ?_⟩
      rw [chartsData, hfields]
      change (pure query : Run _) >>= _ = _
      rw [pure_bind, requestedStyle_of_unknown _ hgiven hasked hunknown, pure_bind]
    · exact sameStatus_overviewPage_without policy config server r setting hfields
  · intro pages a b r one other
    have hrespond : one.SameStatus other := sameStatus_respond policy config server r a b
    exact ⟨hrespond, sameStatus_delivered r hrespond⟩

def donutRequest : Request := { plainRequest with query := "style=donut" }

/-- Two names of no preset: one is blamed on the request, and the other only logged. -/
theorem styles_of_donut_and_blue :
    PageUses Policy.default ((Config.default terseRuntime).withStyle "blue") (.garbled [])
        donutRequest Style.rich [unknownRequest "donut", unknownSetting "blue"] ∧
      chartsData Policy.default ((Config.default terseRuntime).withStyle "blue") (.garbled [])
          donutRequest =
        pure (.ofJson 400 (errorJson (Fault.unknownStyle (Text.quoted "donut")).message)) := by
  have hunknown : ∀ t : Text, Style.ofName? t = none → ∀ style : Style, ¬ style.IsNamedBy t := by
    intro t hnone style hnamed
    rw [(Style.isNamedBy_iff style t).mp hnamed] at hnone
    cases hnone
  have hblue := hunknown "blue" (by decide)
  have hdonut := hunknown "donut" (by decide)
  rcases (styles_of_requests Policy.default (Config.default terseRuntime) (.garbled [])).1 "blue"
    donutRequest [("style", "donut")] (by decide) with
    ⟨configured, records, hconfigures, _, _, hrefused, _⟩
  have huses := hrefused "donut" (by decide) (by decide) hdonut
  cases hconfigures with
  | named known => exact absurd known (hblue configured)
  | unnamed unknown => exact huses

end Site
end TunnelBoard
