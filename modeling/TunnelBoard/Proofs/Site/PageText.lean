import TunnelBoard.Proofs.Chart.Sizes
import TunnelBoard.Proofs.Text.Digits
import TunnelBoard.Proofs.Text.Writable
import TunnelBoard.Site.Page

/-!
# Pages that can be written

A page is made for every state whose traffic is in the range of counters.  The
only texts in it that may have surrogates are those that a server or a
configuration gives: three texts of the state and the error in the banner.  All of
them stand in front of the charts.
-/

namespace TunnelBoard

/-!
# JSON

JSON is written in ASCII whatever its texts are.
-/

namespace Json

theorem isWritable_ofHex (width n : Nat) : (Text.ofHex width n).IsWritable := by
  unfold Text.ofHex
  exact (Text.isWritable_append _ _).mpr
    ⟨Text.isWritable_replicate _ rfl, Text.isWritable_map_ofChar _⟩

theorem isWritable_escapePoint (c : CodePoint) : (escapePoint c).IsWritable := by
  have hunit : ∀ n, (escapeUnit n).IsWritable := fun n =>
    (Text.isWritable_append _ _).mpr ⟨Text.isWritable_ofString _, isWritable_ofHex 4 n⟩
  unfold escapePoint
  iterate 7
    split
    · exact Text.isWritable_ofString _
  split
  · rename_i h
    simp only [Bool.and_eq_true, decide_eq_true_eq] at h
    have hc : ¬ 0xD800 ≤ c.val := by omega
    simp [CodePoint.isSurrogate, hc]
  split
  · exact hunit _
  · exact (Text.isWritable_append _ _).mpr ⟨hunit _, hunit _⟩

theorem isWritable_quote (t : Text) : (quote escapePoint t).IsWritable := by
  unfold quote
  simp [Text.isWritable_flatMap, isWritable_escapePoint]

mutual

theorem isWritable_renderWith : ∀ j : Json, (j.renderWith escapePoint).IsWritable
  | .null => Text.isWritable_ofString _
  | .bool b => by cases b <;> exact Text.isWritable_ofString _
  | .int n => Text.isWritable_ofInt n
  | .text t => isWritable_quote t
  | .array items => by
      have h := Text.isWritable_join (Text.isWritable_ofString ", ") (isWritable_renderItems items)
      simp [renderWith, h]
  | .object fields => by
      have h := Text.isWritable_join (Text.isWritable_ofString ", ")
        (isWritable_renderFields fields)
      simp [renderWith, h]

theorem isWritable_renderItems :
    ∀ items : List Json, ∀ part ∈ renderItems escapePoint items, part.IsWritable
  | [] => nofun
  | j :: rest => List.forall_mem_cons.mpr ⟨isWritable_renderWith j, isWritable_renderItems rest⟩

theorem isWritable_renderFields :
    ∀ fields : List (Text × Json), ∀ part ∈ renderFields escapePoint fields, part.IsWritable
  | [] => nofun
  | (name, j) :: rest => by
      apply List.forall_mem_cons.mpr ⟨?_, isWritable_renderFields rest⟩
      simp [isWritable_quote name, isWritable_renderWith j]

end

theorem isWritable_render (j : Json) : j.render.IsWritable := isWritable_renderWith j

end Json

theorem Html.isWritable_escapeScript {t : Text} (h : t.IsWritable) :
    (escapeScript t).IsWritable := by
  apply (Text.isWritable_flatMap t escapeScriptPoint).mpr
  intro c hc
  unfold escapeScriptPoint
  iterate 3
    split
    · exact Text.isWritable_ofString _
  exact (Text.isWritable_cons c []).mpr ⟨h c hc, Text.isWritable_nil⟩

namespace Site

/-- The texts of a theme can be written. -/
structure Theme.IsWritable (theme : Theme) : Prop where
  name : theme.name.IsWritable
  primary : theme.primary.IsWritable
  background : theme.background.IsWritable
  text : theme.text.IsWritable

theorem Theme.ofName?_cases (name : Text) :
    name = light.name ∧ ofName? name = some light ∨
      name = dark.name ∧ ofName? name = some dark ∨ ofName? name = none := by
  unfold ofName?
  split
  · exact .inl ⟨by assumption, rfl⟩
  split
  · exact .inr (.inl ⟨by assumption, rfl⟩)
  · exact .inr (.inr rfl)

/-- The fallbacks of the parts agree: together they give the theme of the name, or the light one. -/
theorem Theme.ofName_eq_getD (name : Text) : ofName name = (ofName? name).getD light := by
  unfold ofName textColor
  rcases ofName?_cases name with ⟨hname, h⟩ | ⟨hname, h⟩ | h
  · rw [h, hname]
    rfl
  · rw [h, hname]
    rfl
  · rw [h]
    rfl

theorem Theme.ofName_cases (name : Text) : ofName name = light ∨ ofName name = dark := by
  rw [ofName_eq_getD]
  rcases ofName?_cases name with ⟨_, h⟩ | ⟨_, h⟩ | h
  · exact .inl (by rw [h]; rfl)
  · exact .inr (by rw [h]; rfl)
  · exact .inl (by rw [h]; rfl)

theorem Theme.isWritable_ofName (name : Text) : (ofName name).IsWritable := by
  rcases ofName_cases name with h | h <;> rw [h] <;> constructor <;>
    exact Text.isWritable_ofString _

namespace Page

/-!
# Pieces
-/

theorem isWritable_opening {theme : Theme} (h : theme.IsWritable) :
    Text.IsWritable ((opening theme).flatMap Piece.render) := by
  simp [opening, Piece.render, h.name, h.primary, h.background, h.text]

theorem isWritable_banner (error : Option Text) :
    Text.IsWritable ((banner error).flatMap Piece.render) ↔ ∀ e ∈ error, e.IsWritable := by
  cases error with
  | none => simp [banner]
  | some e =>
      cases e with
      | nil => simp [banner]
      | cons c rest => simp [banner, Piece.render]

theorem isWritable_row (head : Text) (hhead : head.IsWritable) (cell : Text) :
    Text.IsWritable ((row head cell).flatMap Piece.render) ↔ cell.IsWritable := by
  simp [row, Piece.render, hhead]

theorem isWritable_rows (s : Snapshot) {received sent : Text} (hreceived : received.IsWritable)
    (hsent : sent.IsWritable) :
    Text.IsWritable (((cells s received sent).flatMap (fun (head, cell) => row head cell)).flatMap
      Piece.render) ↔ s.subdomainHost.IsWritable ∧ s.allowedPorts.IsWritable := by
  have htls : Text.IsWritable (if s.tlsForced then "yes" else "no") := by
    split <;> exact Text.isWritable_ofString _
  rw [List.flatMap_assoc, Text.isWritable_flatMap]
  simp [cells, isWritable_row, htls, hreceived, hsent]

theorem isWritable_closing {charts : Text} (hcharts : charts.IsWritable) :
    Text.IsWritable ((closing charts).flatMap Piece.render) := by
  simp [closing, Piece.render, Html.isWritable_escapeScript hcharts]

/-!
# Pages
-/

theorem isWritable_pieces {theme : Theme} (htheme : theme.IsWritable) (s : Snapshot)
    (error : Option Text) {received sent : Text} (hreceived : received.IsWritable)
    (hsent : sent.IsWritable) {charts : Text} (hcharts : charts.IsWritable) :
    Text.IsWritable ((pieces theme s error received sent charts).flatMap Piece.render) ↔
      s.version.IsWritable ∧ (∀ e ∈ error, e.IsWritable) ∧
        s.subdomainHost.IsWritable ∧ s.allowedPorts.IsWritable := by
  have hheading : Text.IsWritable
      (([.shown s.version, .markup "</h1>\n  "] : List Piece).flatMap Piece.render) ↔
        s.version.IsWritable := by
    simp [Piece.render]
  have htable : Text.IsWritable
      (([.markup "\n  <table>\n"] : List Piece).flatMap Piece.render) := by
    simp [Piece.render]
  unfold pieces
  simp only [List.flatMap_append, Text.isWritable_append, isWritable_banner, hheading, htable,
    isWritable_opening htheme, isWritable_rows s hreceived hsent,
    isWritable_closing hcharts, true_and, and_true, and_assoc]

/-- A page is made, and whether it can be written depends on four texts alone. -/
theorem render_eq_ok {theme : Theme} (htheme : theme.IsWritable) {s : Snapshot}
    (hreceived : s.trafficIn ≤ Counter.limit) (hsent : s.trafficOut ≤ Counter.limit)
    (error : Option Text) {charts : Text} (hcharts : charts.IsWritable) :
    ∃ t, render theme s error charts = .ok t ∧
      (t.IsWritable ↔ s.version.IsWritable ∧ (∀ e ∈ error, e.IsWritable) ∧
        s.subdomainHost.IsWritable ∧ s.allowedPorts.IsWritable) := by
  rcases Size.ofNat_eq_ok .unbroken hreceived with
    ⟨received, hreceivedText, hreceivedWritable⟩
  rcases Size.ofNat_eq_ok .unbroken hsent with
    ⟨sent, hsentText, hsentWritable⟩
  refine ⟨(pieces theme s error received sent charts).flatMap Piece.render, ?_,
    isWritable_pieces htheme s error hreceivedWritable hsentWritable hcharts⟩
  rw [render, hreceivedText, hsentText]
  rfl

/-- The text of the markup between the table and the charts. -/
def divider : Text := ((closing []).take 1).flatMap Piece.render

/-- The text of a page up to its charts. -/
def front (theme : Theme) (s : Snapshot) (error : Option Text) : Except Fault Text := do
  let received ← Size.ofNat .unbroken s.trafficIn
  let sent ← Size.ofNat .unbroken s.trafficOut
  let pieces := opening theme ++ [.shown s.version, .markup "</h1>\n  "] ++ banner error
    ++ [.markup "\n  <table>\n"]
    ++ (cells s received sent).flatMap (fun (head, cell) => row head cell)
  pure (pieces.flatMap Piece.render ++ divider)

theorem render_eq_front (theme : Theme) (s : Snapshot) (error : Option Text) (charts : Text) :
    render theme s error charts =
      (front theme s error).map fun t =>
        t ++ ((closing charts).drop 1).flatMap Piece.render := by
  unfold render front
  cases Size.ofNat .unbroken s.trafficIn with
  | error f => rfl
  | ok received =>
      cases Size.ofNat .unbroken s.trafficOut with
      | error f => rfl
      | ok sent =>
          have hclosing : (closing charts).flatMap Piece.render =
              divider ++ ((closing charts).drop 1).flatMap Piece.render := by
            simp [divider, closing]
          apply congrArg Except.ok
          rw [pieces, List.flatMap_append, hclosing, ← List.append_assoc]

/-- The charts have no say in whether a page can be written. -/
theorem writable_front_append {theme : Theme} {s : Snapshot} {error : Option Text} {t : Text}
    (h : front theme s error = .ok t) {charts : Text} (hcharts : charts.IsWritable) :
    writable (t ++ ((closing charts).drop 1).flatMap Piece.render) =
      (writable t).map fun t => t ++ ((closing charts).drop 1).flatMap Piece.render := by
  have hdivider : divider.IsWritable := by
    simp [divider, closing, Piece.render]
  have hrest : Text.IsWritable (((closing charts).drop 1).flatMap Piece.render) := by
    simp [closing, Piece.render, Html.isWritable_escapeScript hcharts]
  unfold front at h
  cases hreceived : Size.ofNat .unbroken s.trafficIn with
  | error f =>
      rw [hreceived] at h
      cases h
  | ok received =>
      cases hsent : Size.ofNat .unbroken s.trafficOut with
      | error f =>
          rw [hreceived, hsent] at h
          cases h
      | ok sent =>
          rw [hreceived, hsent] at h
          cases h
          exact writable_append_of_isWritable _ hdivider (by decide +kernel) hrest

end Page

end Site
end TunnelBoard
