import TunnelBoard.Proofs.Text.Markup
import TunnelBoard.Site.Page

/-!
# The outline of a page

A page is made of tags with what stands between them.  Which tags it has is
decided by its template: by the theme and by whether there is a banner, but not
by any text that is shown.
-/

namespace TunnelBoard
namespace Site
namespace Page

/-!
# The template

A page opens with its head, then there are the heading with or without a banner,
the table, the places of the charts and the scripts.
-/

def openingTags (theme : Theme) : List Text :=
  [ "!DOCTYPE html", ("html lang=\"en\" data-theme=\"" ++ theme.name ++ "\"" : Text), "head"
  , "meta charset=\"utf-8\"", "title", "/title", "style", "/style", "/head", "body" ]

def headingTags (banner : Bool) : List Text :=
  if banner then ["h1", "/h1", "p class=\"error\" role=\"alert\"", "/p"] else ["h1", "/h1"]

def rowTags : List Text := ["tr", "th", "/th", "td", "/td", "/tr"]

def closingTags : List Text :=
  [ "/table", "div class=\"charts\"", "div id=\"traffic-chart\" class=\"chart\"", "/div"
  , "div id=\"proxy-type-chart\" class=\"chart\"", "/div", "/div"
  , "script id=\"chart-options\" type=\"application/json\"", "/script"
  , "script src=\"https://cdn.jsdelivr.net/npm/echarts@5/dist/echarts.min.js\"", "/script"
  , "script src=\"/static/dashboard/charts.js\"", "/script", "/body", "/html" ]

/-- The tags of the page under a theme, with or without a banner. -/
def tags (theme : Theme) (banner : Bool) : List Text :=
  openingTags theme ++ headingTags banner
    ++ ((["table"] : List Text) ++ (List.replicate 16 rowTags).flatten) ++ closingTags

def heads : List Text :=
  [ "Bind port", "HTTP port", "HTTPS port", "TCP mux HTTP CONNECT port", "KCP bind port"
  , "QUIC bind port", "Subdomain host", "Allow ports", "Max pool count", "Max ports per client"
  , "Heartbeat timeout", "TLS force", "Clients", "Connections", "Traffic in", "Traffic out" ]

/-- The error that a page shows: one without a text is none. -/
def shownError (error : Option Text) : Option Text := error.filter fun e => !e.isEmpty

/-!
# Making the outline
-/

def openingOutline (theme : Theme) : List (Text × Text) :=
  [ ("!DOCTYPE html", "\n"), ("html lang=\"en\" data-theme=\"" ++ theme.name ++ "\"", "\n")
  , ("head", "\n  "), ("meta charset=\"utf-8\"", "\n  "), ("title", "frps dashboard")
  , ("/title", "\n  ")
  , ("style", "\n    body \x7b --n-color: " ++ theme.background ++ "; background: "
      ++ theme.background ++ "; color: " ++ theme.text ++ "; font-family: sans-serif; \x7d\n"
      ++ "    .charts \x7b display: flex; flex-wrap: wrap; gap: 1rem; \x7d\n"
      ++ "    .chart \x7b width: 420px; height: 360px; \x7d\n"
      ++ "    h1, th \x7b color: " ++ theme.primary ++ "; text-align: left; \x7d\n"
      ++ "    .error \x7b color: #d03050; \x7d\n  ")
  , ("/style", "\n"), ("/head", "\n"), ("body", "\n  ") ]

def headingOutline (version : Text) : Option Text → List (Text × Text)
  | none => [("h1", "frps " ++ Html.escape version), ("/h1", "\n  \n  ")]
  | some error =>
      [ ("h1", "frps " ++ Html.escape version), ("/h1", "\n  ")
      , ("p class=\"error\" role=\"alert\"", Html.escape error), ("/p", "\n  ") ]

/-- A row of the table, with what stands behind it. -/
def rowOutline (behind : Text) (entry : Text × Text) : List (Text × Text) :=
  [ ("tr", []), ("th", entry.1), ("/th", []), ("td", Html.escape entry.2), ("/td", [])
  , ("/tr", behind) ]

def tableOutline (entries : List (Text × Text)) (last : Text × Text) : List (Text × Text) :=
  [(("table" : Text), ("\n    " : Text))] ++ entries.flatMap (rowOutline "\n    ")
    ++ rowOutline "\n  " last

def placesOutline : List (Text × Text) :=
  [ ("/table", "\n  "), ("div class=\"charts\"", "\n    ")
  , ("div id=\"traffic-chart\" class=\"chart\"", []), ("/div", "\n    ")
  , ("div id=\"proxy-type-chart\" class=\"chart\"", []), ("/div", "\n  "), ("/div", "\n  ") ]

def scriptOutline (charts : Text) : List (Text × Text) :=
  [("script id=\"chart-options\" type=\"application/json\"", Html.escapeScript charts)]

def endingOutline : List (Text × Text) :=
  [ ("/script", "\n  ")
  , ("script src=\"https://cdn.jsdelivr.net/npm/echarts@5/dist/echarts.min.js\"", [])
  , ("/script", "\n  "), ("script src=\"/static/dashboard/charts.js\"", []), ("/script", "\n")
  , ("/body", "\n"), ("/html", "\n") ]

def outline (theme : Theme) (s : Snapshot) (error : Option Text) (received sent charts : Text) :
    List (Text × Text) :=
  openingOutline theme ++ headingOutline s.version (shownError error)
    ++ tableOutline (cells s received sent).dropLast ("Traffic out", sent)
    ++ placesOutline ++ scriptOutline charts ++ endingOutline

theorem render_opening {theme : Theme} (htheme : theme = Theme.light ∨ theme = Theme.dark) :
    (opening theme).flatMap Piece.render =
      Html.assemble (openingOutline theme) ++ "<h1>frps " := by
  rcases htheme with h | h <;> rw [h]
  · decide +kernel
  · decide +kernel

theorem render_heading (version : Text) (error : Option Text) :
    ("<h1>frps " : Text) ++ (Html.escape version ++ (("</h1>\n  " : Text)
        ++ ((banner error).flatMap Piece.render ++ "\n  "))) =
      Html.assemble (headingOutline version (shownError error)) := by
  cases error with
  | none => rfl
  | some e =>
      cases e with
      | nil => rfl
      | cons c rest =>
          have hbanner : (banner (some (c :: rest))).flatMap Piece.render ++ ("\n  " : Text) =
              "<p class=\"error\" role=\"alert\">" ++ (Html.escape (c :: rest)
                ++ ("</p>" ++ "\n  ")) := by
            simp only [banner, Piece.render, List.flatMap_cons, List.flatMap_nil, List.append_assoc]
            rfl
          rw [hbanner]
          rfl

theorem render_row (behind : Text) (entry : Text × Text) :
    (row entry.1 entry.2).flatMap Piece.render ++ behind =
      "    " ++ Html.assemble (rowOutline ("\n" ++ behind) entry) := by
  have hrow : (row entry.1 entry.2).flatMap Piece.render ++ behind =
      "    <tr><th>" ++ (entry.1 ++ ("</th><td>"
        ++ (Html.escape entry.2 ++ ("</td></tr>\n" ++ behind)))) := by
    simp only [row, Piece.render, List.flatMap_cons, List.flatMap_nil, List.append_assoc]
    rfl
  rw [hrow]
  simp only [rowOutline, Html.assemble, List.flatMap_cons, List.flatMap_nil, List.append_nil]
  rfl

theorem render_rows (entries : List (Text × Text)) :
    (entries.flatMap fun entry => row entry.1 entry.2).flatMap Piece.render ++ ("    " : Text) =
      "    " ++ Html.assemble (entries.flatMap (rowOutline "\n    ")) := by
  induction entries with
  | nil => rfl
  | cons entry rest ih =>
      rw [List.flatMap_cons, List.flatMap_append, List.append_assoc, ih, ← List.append_assoc,
        render_row, List.flatMap_cons, Html.assemble_append, List.append_assoc]
      rfl

theorem render_table (entries : List (Text × Text)) (last : Text × Text) :
    ("<table>\n" : Text)
        ++ (((entries ++ [last]).flatMap fun entry => row entry.1 entry.2).flatMap Piece.render
          ++ "  ") =
      Html.assemble (tableOutline entries last) := by
  rw [List.flatMap_append, List.flatMap_singleton, List.flatMap_append, List.append_assoc,
    render_row, ← List.append_assoc (List.flatMap Piece.render _), render_rows, tableOutline,
    Html.assemble_append, Html.assemble_append, List.append_assoc, List.append_assoc]
  rfl

theorem render_closing (charts : Text) :
    (closing charts).flatMap Piece.render =
      "  " ++ (Html.assemble placesOutline ++ (Html.assemble (scriptOutline charts)
        ++ Html.assemble endingOutline)) := by
  have hplaces : ("  </table>\n  <div class=\"charts\">\n"
      ++ "    <div id=\"traffic-chart\" class=\"chart\"></div>\n"
      ++ "    <div id=\"proxy-type-chart\" class=\"chart\"></div>\n  </div>\n"
      ++ "  <script id=\"chart-options\" type=\"application/json\">" : Text) =
        "  " ++ (Html.assemble placesOutline
          ++ "<script id=\"chart-options\" type=\"application/json\">") := by
    decide +kernel
  have hending : ("</script>\n"
      ++ "  <script src=\"https://cdn.jsdelivr.net/npm/echarts@5/dist/echarts.min.js\"></script>\n"
      ++ "  <script src=\"/static/dashboard/charts.js\"></script>\n</body>\n</html>\n" : Text) =
        Html.assemble endingOutline := by
    decide +kernel
  rw [closing, hplaces, hending]
  simp only [scriptOutline, Html.assemble, Piece.render, List.flatMap_cons, List.flatMap_nil,
    List.append_nil, List.append_assoc]
  rfl

theorem render_pieces {theme : Theme} (htheme : theme = Theme.light ∨ theme = Theme.dark)
    (s : Snapshot) (error : Option Text) (received sent charts : Text) :
    (pieces theme s error received sent charts).flatMap Piece.render =
      Html.assemble (outline theme s error received sent charts) := by
  have hpieces : pieces theme s error received sent charts =
      opening theme ++ [.shown s.version, .markup "</h1>\n  "] ++ banner error
        ++ [.markup "\n  <table>\n"]
        ++ ((cells s received sent).dropLast ++ [(("Traffic out" : Text), sent)]).flatMap
          (fun entry => row entry.1 entry.2)
        ++ closing charts := rfl
  have htable : ("\n  <table>\n" : Text) = "\n  " ++ "<table>\n" := rfl
  rw [hpieces, outline]
  simp only [List.flatMap_append, Html.assemble_append, render_opening htheme, render_closing,
    ← render_table, ← render_heading, List.flatMap_cons, List.flatMap_nil, Piece.render,
    List.append_assoc, htable, List.nil_append]

/-!
# Reading the outline

The tags of the outline are those of the template, and there is no angle beside
them.
-/

theorem isTagged_openingOutline {theme : Theme}
    (htheme : theme = Theme.light ∨ theme = Theme.dark) :
    Html.IsTagged (openingOutline theme) := by
  rcases htheme with h | h <;> rw [h]
  · decide +kernel
  · decide +kernel

theorem isTagged_headingOutline (version : Text) (error : Option Text) :
    Html.IsTagged (headingOutline version error) := by
  have htags : ∀ tag ∈ headingTags true, Html.IsPlain tag := by decide
  have hspace : Html.IsPlain "\n  " ∧ Html.IsPlain "\n  \n  " := by decide
  have hheading : Html.IsPlain ("frps " ++ Html.escape version) :=
    (Html.isPlain_append _ _).mpr ⟨by decide, Html.isPlain_escape version⟩
  simp only [headingTags, if_true, List.forall_mem_cons] at htags
  cases error with
  | none =>
      simp only [headingOutline, Html.IsTagged, List.forall_mem_cons, htags, hspace, hheading]
      exact ⟨⟨trivial, trivial⟩, ⟨trivial, trivial⟩, nofun⟩
  | some e =>
      simp only [headingOutline, Html.IsTagged, List.forall_mem_cons, htags, hspace, hheading,
        Html.isPlain_escape]
      exact ⟨⟨trivial, trivial⟩, ⟨trivial, trivial⟩, ⟨trivial, trivial⟩, ⟨trivial, trivial⟩, nofun⟩

theorem isTagged_rowOutline {behind : Text} (hbehind : Html.IsPlain behind) {entry : Text × Text}
    (hhead : Html.IsPlain entry.1) : Html.IsTagged (rowOutline behind entry) := by
  have htags : ∀ tag ∈ rowTags, Html.IsPlain tag := by decide
  have hnil : Html.IsPlain [] := by decide
  simp only [rowTags, List.forall_mem_cons] at htags
  simp only [Html.IsTagged, rowOutline, List.forall_mem_cons, htags, hnil, hhead, hbehind,
    Html.isPlain_escape, true_and]
  nofun

theorem isTagged_tableOutline {entries : List (Text × Text)} {last : Text × Text}
    (hheads : ∀ entry ∈ entries, Html.IsPlain entry.1) (hlast : Html.IsPlain last.1) :
    Html.IsTagged (tableOutline entries last) := by
  have htable : Html.IsTagged [("table", "\n    ")] := by decide
  have hspace : Html.IsPlain "\n    " ∧ Html.IsPlain "\n  " := by decide
  rw [tableOutline, Html.isTagged_append, Html.isTagged_append]
  refine ⟨⟨htable, ?_⟩, isTagged_rowOutline hspace.2 hlast⟩
  intro tag htag
  rcases List.mem_flatMap.mp htag with ⟨entry, hentry, htag⟩
  exact isTagged_rowOutline hspace.1 (hheads entry hentry) tag htag

theorem isTagged_outline {theme : Theme} (htheme : theme = Theme.light ∨ theme = Theme.dark)
    (s : Snapshot) (error : Option Text) (received sent charts : Text) :
    Html.IsTagged (outline theme s error received sent charts) := by
  have hheads : ∀ head ∈ heads, Html.IsPlain head := by decide
  have hcells : ∀ entry ∈ (cells s received sent).dropLast, Html.IsPlain entry.1 := by
    intro entry hentry
    apply hheads
    have hmem : entry ∈ cells s received sent := List.dropLast_subset _ hentry
    exact List.mem_map_of_mem (f := Prod.fst) hmem
  have hscriptTag : Html.IsPlain "script id=\"chart-options\" type=\"application/json\"" := by
    decide
  have hscript : Html.IsTagged (scriptOutline charts) := by
    rw [scriptOutline, Html.IsTagged, List.forall_mem_singleton]
    exact ⟨hscriptTag, Html.isPlain_escapeScript charts⟩
  simp only [outline, Html.isTagged_append]
  exact ⟨⟨⟨⟨⟨isTagged_openingOutline htheme, isTagged_headingOutline _ _⟩,
    isTagged_tableOutline hcells (hheads "Traffic out" (by decide))⟩, by decide⟩, hscript⟩,
      by decide⟩

theorem map_fst_outline (theme : Theme) (s : Snapshot) (error : Option Text)
    (received sent charts : Text) :
    (outline theme s error received sent charts).map Prod.fst =
      tags theme (shownError error).isSome := by
  have hheading : (headingOutline s.version (shownError error)).map Prod.fst =
      headingTags (shownError error).isSome := by
    cases shownError error with
    | none => rfl
    | some e => rfl
  have hclosing : (placesOutline ++ (scriptOutline charts ++ endingOutline)).map Prod.fst =
      closingTags := rfl
  rw [outline, List.append_assoc, List.append_assoc, List.map_append, hclosing, List.map_append,
    List.map_append, hheading]
  rfl

/-- The tags behind which there is something that differs from page to page. -/
def variableTags : List Text :=
  [ "h1", "p class=\"error\" role=\"alert\"", "th", "td"
  , "script id=\"chart-options\" type=\"application/json\"" ]

theorem behind_fixed {theme : Theme} (htheme : theme = Theme.light ∨ theme = Theme.dark)
    {tag : Text} (htag : tag ∈ variableTags) :
    Html.behind tag (openingOutline theme) = [] ∧ Html.behind tag [("table", "\n    ")] = [] ∧
      Html.behind tag placesOutline = [] ∧ Html.behind tag endingOutline = [] := by
  have hall : ∀ tag ∈ variableTags,
      Html.behind tag (openingOutline Theme.light) = [] ∧
        Html.behind tag (openingOutline Theme.dark) = [] ∧
          Html.behind tag [("table", "\n    ")] = [] ∧
            Html.behind tag placesOutline = [] ∧ Html.behind tag endingOutline = [] := by
    decide +kernel
  rcases hall tag htag with ⟨hlight, hdark, hrest⟩
  rcases htheme with h | h <;> rw [h]
  · exact ⟨hlight, hrest⟩
  · exact ⟨hdark, hrest⟩

/-- What stands behind such a tag is found in the heading, in the rows and in the script. -/
theorem behind_outline {theme : Theme} (htheme : theme = Theme.light ∨ theme = Theme.dark)
    (s : Snapshot) (error : Option Text) (received sent charts : Text) {tag : Text}
    (htag : tag ∈ variableTags) (find : Text × Text → List Text)
    (hrow : ∀ behind entry, Html.behind tag (rowOutline behind entry) = find entry) :
    Html.behind tag (outline theme s error received sent charts) =
      Html.behind tag (headingOutline s.version (shownError error))
        ++ (cells s received sent).flatMap find ++ Html.behind tag (scriptOutline charts) := by
  have hcells : cells s received sent =
      (cells s received sent).dropLast ++ [(("Traffic out" : Text), sent)] := rfl
  rcases behind_fixed htheme htag with ⟨hopening, htable, hplaces, hending⟩
  rw [hcells]
  simp only [outline, tableOutline, Html.behind_append, Html.behind_flatMap, hrow, hopening, htable,
    hplaces, hending, List.flatMap_append, List.flatMap_singleton, List.nil_append,
    List.append_nil]

theorem behind_variable {theme : Theme} (htheme : theme = Theme.light ∨ theme = Theme.dark)
    (s : Snapshot) (error : Option Text) (received sent charts : Text) :
    let behind := fun tag => Html.behind tag (outline theme s error received sent charts)
    behind "h1" = ["frps " ++ Html.escape s.version] ∧
      behind "p class=\"error\" role=\"alert\"" = (shownError error).toList.map Html.escape ∧
      behind "th" = heads ∧
      behind "td" = (cells s received sent).map (fun entry => Html.escape entry.2) ∧
      behind "script id=\"chart-options\" type=\"application/json\"" =
        [Html.escapeScript charts] := by
  intro behind
  have hfound := fun (tag : Text) => @behind_outline theme htheme s error received sent charts tag
  have hheading := hfound "h1" (by decide) (fun _ => []) fun _ _ => rfl
  have hbanner := hfound "p class=\"error\" role=\"alert\"" (by decide) (fun _ => []) fun _ _ => rfl
  have hheads := hfound "th" (by decide) (fun entry => [entry.1]) fun _ _ => rfl
  have hcells := hfound "td" (by decide) (fun entry => [Html.escape entry.2]) fun _ _ => rfl
  have hscript := hfound "script id=\"chart-options\" type=\"application/json\"" (by decide)
    (fun _ => []) fun _ _ => rfl
  simp only [behind, hheading, hbanner, hheads, hcells, hscript]
  cases shownError error with
  | none => exact ⟨rfl, rfl, rfl, rfl, rfl⟩
  | some e => exact ⟨rfl, rfl, rfl, rfl, rfl⟩

end Page
end Site
end TunnelBoard
