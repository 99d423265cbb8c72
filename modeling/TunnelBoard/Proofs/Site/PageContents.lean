import TunnelBoard.Proofs.Chart.Consistency
import TunnelBoard.Proofs.Site.Outline
import TunnelBoard.Proofs.Site.Views

/-!
# What a page shows

Whatever a server sends, the tags of a page are those of its template, and a
reader finds the fields of the state and the error between them, just as they
are.
-/

namespace TunnelBoard
namespace Site
namespace Page

/--
A page shows a state, an error and charts to a reader: its tags are those of the
template, and its texts are those of the state and the error.
-/
structure Shows (referent? : Text → Option Text) (theme : Theme) (s : Snapshot)
    (error : Option Text) (charts : Json) (received sent : Text) (page : Text) : Prop where
  themed : theme = Theme.light ∨ theme = Theme.dark
  tags : (Html.tagged page).map Prod.fst = Page.tags theme (shownError error).isSome
  angles : Html.angles page = (Page.tags theme (shownError error).isSome).flatMap fun _ => "<>"
  script : Html.contents "script id=\"chart-options\" type=\"application/json\"" page =
    [Html.escapeScript charts.render]
  inert : ∀ c ∈ Html.escapeScript charts.render, ¬ (c = '&' ∨ c = '<' ∨ c = '>')
  heading : (Html.contents "h1" page).map (Html.unescape referent?) = ["frps " ++ s.version]
  banner : (Html.contents "p class=\"error\" role=\"alert\"" page).map (Html.unescape referent?) =
    (shownError error).toList
  heads : Html.contents "th" page = Page.heads
  cells : (Html.contents "td" page).map (Html.unescape referent?) =
    [ Text.ofNat s.bindPort, Text.ofNat s.httpPort, Text.ofNat s.httpsPort, Text.ofNat s.muxPort
    , Text.ofNat s.kcpPort, Text.ofNat s.quicPort, s.subdomainHost, s.allowedPorts
    , Text.ofNat s.maxPoolCount, Text.ofNat s.maxPortsPerClient, Text.ofNat s.heartbeatTimeout
    , if s.tlsForced then "yes" else "no", Text.ofNat s.clients, Text.ofNat s.connections
    , received, sent ]
  receivedSize : Size.ofNat .unbroken s.trafficIn = .ok received
  sentSize : Size.ofNat .unbroken s.trafficOut = .ok sent
  /-- The sizes are those in the labels of the chart. -/
  labels : ∃ ingress egress, (charts.field? "traffic").bind Json.drawnSlices? =
      some [ingress, egress] ∧
    ingress.label = "ingress traffic\n" ++ Size.breakable received ∧
    egress.label = "egress traffic\n" ++ Size.breakable sent

theorem shows_render {referent? : Text → Option Text} (hknows : Html.KnowsMarkup referent?)
    {theme : Theme} (htheme : theme = Theme.light ∨ theme = Theme.dark) {s : Snapshot}
    (error : Option Text) {charts : Json} {received sent : Text}
    (hreceived : Size.ofNat .unbroken s.trafficIn = .ok received)
    (hsent : Size.ofNat .unbroken s.trafficOut = .ok sent)
    (hlabels : ∃ ingress egress, (charts.field? "traffic").bind Json.drawnSlices? =
        some [ingress, egress] ∧
      ingress.label = "ingress traffic\n" ++ Size.breakable received ∧
      egress.label = "egress traffic\n" ++ Size.breakable sent) :
    ∃ page, render theme s error charts.render = .ok page ∧
      Shows referent? theme s error charts received sent page := by
  have htagged := isTagged_outline htheme s error received sent charts.render
  have htags := map_fst_outline theme s error received sent charts.render
  have hread : ∀ t, Html.unescape referent? (Html.escape t) = t := Html.unescape_escape hknows
  have hbehind := behind_variable htheme s error received sent charts.render
  dsimp only at hbehind
  rcases hbehind with ⟨hheading, hbanner, hheads, hcells, hscript⟩
  refine ⟨Html.assemble (outline theme s error received sent charts.render), ?_, ?_⟩
  · rw [render, hreceived, hsent, ← render_pieces htheme]
    rfl
  · constructor
    case themed => exact htheme
    case tags => rw [Html.tagged_assemble htagged, htags]
    case angles => rw [Html.angles_assemble htagged, ← htags, List.flatMap_map]
    case script => rw [Html.contents, Html.tagged_assemble htagged, hscript]
    case inert => exact fun c hc => Json.not_isMarkup_of_mem_escapeScript hc
    case heading =>
      have hfrps : ('&' : CodePoint) ∉ ("frps " : Text) := by decide
      rw [Html.contents, Html.tagged_assemble htagged, hheading, List.map_singleton,
        Html.unescape_append hfrps, hread]
    case banner =>
      rw [Html.contents, Html.tagged_assemble htagged, hbanner, List.map_map]
      exact (List.map_congr_left fun t _ => hread t).trans (List.map_id _)
    case heads => rw [Html.contents, Html.tagged_assemble htagged, hheads]
    case cells =>
      rw [Html.contents, Html.tagged_assemble htagged, hcells, List.map_map]
      exact (List.map_congr_left fun (entry : Text × Text) _ => hread entry.2)
    case receivedSize => exact hreceived
    case sentSize => exact hsent
    case labels => exact hlabels

/-- The page of a state that was read from any mapping shows this state and its charts. -/
theorem exists_shows {referent? : Text → Option Text} (hknows : Html.KnowsMarkup referent?)
    {theme : Theme} (htheme : theme = Theme.light ∨ theme = Theme.dark)
    (entries : List (Value × Value)) (error : Option Text) (style : Style) :
    ∃ charts received sent page,
      (chartsJson (Snapshot.ofEntries entries) theme.text style).result = .ok charts ∧
        render theme (Snapshot.ofEntries entries) error charts.render = .ok page ∧
        Shows referent? theme (Snapshot.ofEntries entries) error charts received sent page := by
  have hcounters := Snapshot.counters_ofEntries_le entries
  generalize Snapshot.ofEntries entries = s at hcounters ⊢
  have hin : s.trafficIn ≤ Counter.limit := hcounters _ (by simp [Snapshot.counters])
  have hout : s.trafficOut ≤ Counter.limit := hcounters _ (by simp [Snapshot.counters])
  rcases Size.ofNat_eq_ok .unbroken hin with ⟨received, hreceived, _⟩
  rcases Size.ofNat_eq_ok .unbroken hout with ⟨sent, hsent, _⟩
  rcases Chart.exists_labeled_draw_ofTraffic hin hout theme.text style
    (Size.ofNat_plain_eq hin hreceived) (Size.ofNat_plain_eq hout hsent) with
    ⟨traffic, ingress, egress, htraffic, hitems, hingress, hegress⟩
  rcases Chart.exists_consistent_draw_ofCounts (Counts.ofValue s.proxies.toValue) theme.text style
    with ⟨proxies, _, hproxies, _⟩
  rw [← (Counter.ofInt_natCast_eq_self_iff s.trafficIn).mpr hin,
    ← (Counter.ofInt_natCast_eq_self_iff s.trafficOut).mpr hout] at htraffic
  let charts : Json := .object [("traffic", traffic.toJson), ("proxyTypes", proxies.toJson)]
  have hread : (charts.field? "traffic").bind Json.drawnSlices? = some [ingress, egress] := hitems
  have hlabels := And.intro hread (And.intro hingress hegress)
  rcases shows_render hknows htheme error hreceived hsent ⟨ingress, egress, hlabels⟩ with
    ⟨page, hpage, hshows⟩
  exact ⟨charts, received, sent, page, result_chartsJson htraffic hproxies, hpage, hshows⟩

end Page

/-!
# Answers
-/

section

variable {policy : Policy} {config : Config} {server : Server.Behavior} {r : Request}

theorem overview_eq_ok {o : Overview} (h : (overview policy config server r).result = .ok o) :
    ∃ query cookies style, r.fields policy = .ok query ∧ r.readCookies = .ok cookies ∧
      o.theme = themeOf config query cookies ∧
      (shownState config server).result = .ok (o.snapshot, o.error) ∧
      (chartsJson o.snapshot o.theme.text style).result = .ok o.charts := by
  rcases Run.result_bind_eq_ok h with ⟨query, hfields, h⟩
  rcases Run.result_bind_eq_ok h with ⟨theme, htheme, h⟩
  rcases Run.result_bind_eq_ok h with ⟨style, _, h⟩
  rcases Run.result_bind_eq_ok h with ⟨⟨s, error⟩, hstate, h⟩
  rcases Run.result_bind_eq_ok h with ⟨charts, hcharts, h⟩
  cases h
  cases hcookies : r.readCookies with
  | error f =>
      rw [Run.result_ofExcept, requestedTheme, hcookies] at htheme
      cases htheme
  | ok cookies =>
      rw [Run.result_ofExcept, requestedTheme_eq_ok config query hcookies] at htheme
      cases htheme
      exact ⟨query, cookies, style, hfields, rfl, rfl, hstate, hcharts⟩

theorem message_ne_nil (cause : Server.Unavailable) : cause.message ≠ [] := by
  cases cause <;> nofun

theorem shownState_eq_ok {s : Snapshot} {error : Option Text}
    (h : (shownState config server).result = .ok (s, error)) :
    (∃ entries, s = Snapshot.ofEntries entries) ∧ ∀ e ∈ error, e ≠ [] := by
  rcases Run.result_bind_eq_ok h with ⟨outcome, htry, h⟩
  cases outcome with
  | error cause =>
      cases h
      refine ⟨⟨[], rfl⟩, ?_⟩
      intro e he
      cases he
      exact message_ne_nil cause
  | ok fetched =>
      cases h
      exact ⟨exists_entries_of_fetch (result_fetch_of_tryFetch htry), nofun⟩

/--
Whatever a server sends and whatever the error, the query, the cookies and the
configuration are, a page has the tags of its template and no other angles.  A
reader who knows the references of markup reads the fields of the state and the
error on it, and the sizes of the traffic are those in the chart.  Every answer of
the site with a page is such a page of the state that was fetched, or of the
empty state and the reason why there is none.
-/
theorem page_shows_state {referent? : Text → Option Text} (hknows : Html.KnowsMarkup referent?) :
    (∀ (entries : List (Value × Value)) (error : Option Text) (theme : Text) (style : Style),
      ∃ charts received sent page,
        (chartsJson (Snapshot.ofEntries entries) (Theme.ofName theme).text style).result =
            .ok charts ∧
          Page.render (Theme.ofName theme) (Snapshot.ofEntries entries) error charts.render =
            .ok page ∧
          Page.Shows referent? (Theme.ofName theme) (Snapshot.ofEntries entries) error charts
            received sent page) ∧
      ∀ (policy : Policy) (config : Config) (server : Server.Behavior) (r : Request)
        (response : Response), (overviewPage policy config server r).result = .ok response →
        ∃ entries error theme charts received sent,
          (shownState config server).result = .ok (Snapshot.ofEntries entries, error) ∧
            (∀ e ∈ error, e ≠ []) ∧
            Page.Shows referent? theme (Snapshot.ofEntries entries) error charts received sent
              response.body := by
  constructor
  · intro entries error theme style
    exact Page.exists_shows hknows (Theme.ofName_cases theme) entries error style
  · intro policy config server r response h
    rcases Run.result_bind_eq_ok h with ⟨o, hoverview, hpage⟩
    rcases overview_eq_ok hoverview with ⟨query, cookies, style, _, _, htheme, hstate, hcharts⟩
    rcases shownState_eq_ok hstate with ⟨⟨entries, hentries⟩, herror⟩
    have hthemed : o.theme = Theme.light ∨ o.theme = Theme.dark := by
      rw [htheme]
      exact Theme.ofName_cases _
    rw [hentries] at hstate hcharts
    rcases Page.exists_shows hknows hthemed entries o.error style with
      ⟨charts, received, sent, page, hdrawn, hrender, hshows⟩
    rw [hcharts] at hdrawn
    cases hdrawn
    rw [Run.result_ofExcept] at hpage
    rw [← hentries, render_of_page hpage] at hrender
    rw [← Except.ok.inj hrender] at hshows
    exact ⟨entries, o.error, o.theme, o.charts, received, sent, hstate, herror, hshows⟩

end

/-- The references that stand for markup, and no others. -/
def markupReferent? (name : Text) : Option Text :=
  (Html.references.find? fun reference => reference.2 = name).map fun reference => [reference.1]

/-- A state with a version that looks like markup. -/
def hostileEntries : List (Value × Value) :=
  [ (.text "version", .text "</h1><script>&lt;"), (.text "totalTrafficIn", .int 1536) ]

/-- A version that looks like markup is shown, and so is the message of a server that fails. -/
theorem page_shows_hostile_texts :
    (∃ charts received sent page,
      Page.Shows markupReferent? Theme.dark (Snapshot.ofEntries hostileEntries)
          (some "<b>&amp;\"'") charts received sent page ∧
        (Html.contents "h1" page).map (Html.unescape markupReferent?) =
          ["frps </h1><script>&lt;"]) ∧
      ∃ response,
        (overviewPage Policy.default (Config.default terseRuntime) (.fails "<b>")
            plainRequest).result =
          .ok response ∧
        (Html.contents "p class=\"error\" role=\"alert\"" response.body).map
            (Html.unescape markupReferent?) =
          ["Could not reach frps dashboard at http://127.0.0.1:7500/api/serverinfo: <b>"] := by
  have hknows : Html.KnowsMarkup markupReferent? := by
    unfold Html.KnowsMarkup
    decide
  rcases page_shows_state hknows with ⟨hstates, hanswers⟩
  constructor
  · rcases hstates hostileEntries (some "<b>&amp;\"'") "dark" Style.plain with
      ⟨charts, received, sent, page, _, _, hshows⟩
    exact ⟨charts, received, sent, page, hshows, hshows.heading⟩
  · let cause : Server.Unavailable :=
      .unreachable "http://127.0.0.1:7500/api/serverinfo" "<b>"
    have hfetch : (fetch (Config.default terseRuntime) (.fails "<b>")).result =
        .error (.unavailable cause) := rfl
    have hreason := @showReason_of_fetch Policy.default (Config.default terseRuntime) "rich"
      plainRequest [] [] (presetOf "rich") rfl rfl rfl (.unnamed (.inl rfl)) (.fails "<b>") cause
      hfetch
    rcases hreason with ⟨o, hreason⟩
    have hmessage : cause.message.IsWritable := by decide
    rcases hreason.answers.mpr hmessage with ⟨response, hresponse⟩
    rcases hanswers Policy.default (Config.default terseRuntime) (.fails "<b>") plainRequest
        response hresponse with
      ⟨entries, error, theme, charts, received, sent, hstate, _, hshows⟩
    have herror : error = some cause.message := by
      rw [result_shownState_of_unavailable hfetch] at hstate
      exact (congrArg Prod.snd (Except.ok.inj hstate)).symm
    refine ⟨response, hresponse, ?_⟩
    rw [hshows.banner, herror]
    rfl

end Site
end TunnelBoard
