import TunnelBoard.Proofs.Json.Rereading

/-!
# JSON in a script element

Escaping JSON for a script element only changes what stands for the code points
of its texts.  It therefore stands for the same value as the JSON itself.
-/

namespace TunnelBoard
namespace Json

/-!
# Parts
-/

theorem escapeScript_append (s t : Text) :
    Html.escapeScript (s ++ t) = Html.escapeScript s ++ Html.escapeScript t :=
  List.flatMap_append

theorem escapeScript_join (separator : Text) (parts : List Text) :
    Html.escapeScript (Text.join separator parts) =
      Text.join (Html.escapeScript separator) (parts.map Html.escapeScript) := by
  induction parts with
  | nil => rfl
  | cons part parts ih =>
      cases parts with
      | nil => simp [Text.join, List.intercalate]
      | cons next parts =>
          rw [Text.join_cons_cons, escapeScript_append, escapeScript_append, ih]
          simp only [List.map_cons]
          rw [Text.join_cons_cons]

theorem escapeScript_quote (escape : CodePoint → Text) (t : Text) :
    Html.escapeScript (quote escape t) = quote (fun c => Html.escapeScript (escape c)) t := by
  have hflatMap : Html.escapeScript (t.flatMap escape) =
      t.flatMap fun c => Html.escapeScript (escape c) := List.flatMap_assoc
  rw [quote, escapeScript_append, escapeScript_append, hflatMap]
  rfl

theorem escapeScript_ofInt (n : Int) : Html.escapeScript (Text.ofInt n) = Text.ofInt n := by
  apply escapeScript_eq_self
  have hdigit : ∀ c ∈ Text.ofNat n.natAbs, ¬ IsMarkup c := by
    intro c hc
    have hne := fun (d : CodePoint) =>
      ne_of_isAsciiDigit (c := d) (Text.isAsciiDigit_of_mem_ofNat hc)
    exact not_or.mpr ⟨(hne _ rfl).symm, not_or.mpr ⟨(hne _ rfl).symm, (hne _ rfl).symm⟩⟩
  unfold Text.ofInt
  split
  · intro c hc
    rcases List.mem_cons.mp hc with hc | hc
    · subst hc
      unfold IsMarkup
      decide
    · exact hdigit c hc
  · exact hdigit

/-!
# Values
-/

mutual

theorem escapeScript_renderWith (escape : CodePoint → Text) :
    ∀ j : Json, Html.escapeScript (j.renderWith escape) =
      j.renderWith fun c => Html.escapeScript (escape c)
  | .null => rfl
  | .bool b => by cases b <;> rfl
  | .int n => escapeScript_ofInt n
  | .text t => escapeScript_quote escape t
  | .array items => by
      rw [renderWith, renderWith, escapeScript_append, escapeScript_append, escapeScript_join,
        map_escapeScript_renderItems]
      rfl
  | .object fields => by
      rw [renderWith, renderWith, escapeScript_append, escapeScript_append, escapeScript_join,
        map_escapeScript_renderFields]
      rfl

theorem map_escapeScript_renderItems (escape : CodePoint → Text) :
    ∀ items : List Json, (renderItems escape items).map Html.escapeScript =
      renderItems (fun c => Html.escapeScript (escape c)) items
  | [] => rfl
  | j :: rest => by
      rw [renderItems, renderItems, List.map_cons, escapeScript_renderWith,
        map_escapeScript_renderItems]

theorem map_escapeScript_renderFields (escape : CodePoint → Text) :
    ∀ fields : List (Text × Json), (renderFields escape fields).map Html.escapeScript =
      renderFields (fun c => Html.escapeScript (escape c)) fields
  | [] => rfl
  | (name, j) :: rest => by
      rw [renderFields, renderFields, List.map_cons, escapeScript_append, escapeScript_append,
        escapeScript_quote, escapeScript_renderWith, map_escapeScript_renderFields]
      rfl

end

theorem read_escapeScript_render {depth : Nat} {j : Json} (h : Readable depth j) :
    read depth (Html.escapeScript j.render) = .ok j.toValue := by
  rw [render, escapeScript_renderWith]
  exact read_renderWith isFaithful_escapeScript h

end Json
end TunnelBoard
