import TunnelBoard.Proofs.Text.Splitting
import TunnelBoard.Server.Access

/-!
# Users in addresses

A user stands in an address between the two slashes and the path.  What goes on
behind a slash does not change it, so the address at which a server is asked for
its state has the user of the address that is configured.
-/

namespace TunnelBoard
namespace Url

/-!
# The authority of a text
-/

/-- What stands between the two slashes and the path, as it is written. -/
def writtenAuthority (t : Text) : Text := (splitAuthority (splitScheme t).2).1

theorem user_split (t : Text) :
    (split t).user =
      (((writtenAuthority t).cutLast? '@').getD ([], writtenAuthority t)).1 :=
  rfl

/-- Text that can stand behind an authority: it is empty, or a slash and no second one. -/
structure IsBehindAuthority (u : Text) : Prop where
  slash : ∀ c ∈ u.head?, c = '/'
  empty : (splitAuthority u).1 = []

section

variable {u : Text}

theorem takeWhile_append_of_slash {p : CodePoint → Bool} (hp : p '/' = false)
    (hu : ∀ c ∈ u.head?, c = '/') (s : Text) : (s ++ u).takeWhile p = s.takeWhile p := by
  induction s with
  | nil =>
      cases u with
      | nil => rfl
      | cons c rest =>
          rw [hu c rfl, List.nil_append, List.takeWhile_cons_of_neg (by simp [hp])]
          rfl
  | cons c rest ih => rw [List.cons_append, List.takeWhile_cons, List.takeWhile_cons, ih]

theorem dropWhile_append_of_slash {p : CodePoint → Bool} (hp : p '/' = false)
    (hu : ∀ c ∈ u.head?, c = '/') (s : Text) : (s ++ u).dropWhile p = s.dropWhile p ++ u := by
  induction s with
  | nil =>
      cases u with
      | nil => rfl
      | cons c rest =>
          rw [hu c rfl, List.nil_append, List.dropWhile_cons_of_neg (by simp [hp])]
          rfl
  | cons c rest ih =>
      rw [List.cons_append, List.dropWhile_cons, List.dropWhile_cons, ih]
      split <;> rfl

theorem splitScheme_append (hu : ∀ c ∈ u.head?, c = '/') (s : Text) :
    splitScheme (s ++ u) = ((splitScheme s).1, (splitScheme s).2 ++ u) := by
  have hslash : isSchemePoint '/' = false := by decide
  rw [splitScheme, splitScheme, takeWhile_append_of_slash hslash hu,
    dropWhile_append_of_slash hslash hu]
  cases s.dropWhile isSchemePoint with
  | nil =>
      cases u with
      | nil => rfl
      | cons c rest =>
          have hcolon : ¬ c = ':' := by
            rw [hu c rfl]
            decide
          simp [hcolon]
  | cons c rest =>
      dsimp only [List.cons_append]
      split <;> rfl

theorem suffix_splitScheme (s : Text) : (splitScheme s).2 <:+ s := by
  unfold splitScheme
  dsimp only
  split
  · rename_i c after hrest
    split
    · have hsuffix : c :: after <:+ s := hrest ▸ List.dropWhile_suffix _
      exact (List.suffix_cons c after).trans hsuffix
    · exact List.suffix_refl s
  · exact List.suffix_refl s

/-- What stands behind an authority is no part of it if no slash stands before. -/
theorem fst_splitAuthority_append (hu : IsBehindAuthority u) {s : Text}
    (hs : ∀ c ∈ s.getLast?, ¬ c = '/') :
    (splitAuthority (s ++ u)).1 = (splitAuthority s).1 := by
  have hinside : (fun c : CodePoint => decide (c ≠ '/') && decide (c ≠ '?') && decide (c ≠ '#'))
      '/' = false := by
    decide
  cases s with
  | nil => exact hu.empty
  | cons c rest =>
      by_cases hc : ('/' : CodePoint) = c
      · cases rest with
        | nil => exact absurd hc.symm (hs c rfl)
        | cons d rest =>
            by_cases hd : ('/' : CodePoint) = d
            · have hstart : ∀ t : Text, Text.dropStart? "//" (c :: d :: t) = some t := by
                intro t
                show (if ('/' : CodePoint) = c then if ('/' : CodePoint) = d then some t else none
                  else none) = _
                rw [if_pos hc, if_pos hd]
              simp only [splitAuthority, List.cons_append, hstart]
              exact takeWhile_append_of_slash hinside hu.slash rest
            · have hstart : ∀ t : Text, Text.dropStart? "//" (c :: d :: t) = none := by
                intro t
                show (if ('/' : CodePoint) = c then if ('/' : CodePoint) = d then some t else none
                  else none) = _
                rw [if_pos hc, if_neg hd]
              simp only [splitAuthority, List.cons_append, hstart]
      · have hstart : ∀ t : Text, Text.dropStart? "//" (c :: t) = none := fun t => if_neg hc
        simp only [splitAuthority, List.cons_append, hstart]

theorem writtenAuthority_append (hu : IsBehindAuthority u) {s : Text}
    (hs : ∀ c ∈ s.getLast?, ¬ c = '/') : writtenAuthority (s ++ u) = writtenAuthority s := by
  rw [writtenAuthority, splitScheme_append hu.slash]
  apply fst_splitAuthority_append hu
  intro c hc
  rcases suffix_splitScheme s with ⟨start, happend⟩
  apply hs c
  rw [← happend, List.getLast?_append, Option.mem_def.mp hc]
  rfl

theorem isBehindAuthority_of_slashes (h : ∀ c ∈ u, c = '/') : IsBehindAuthority u := by
  constructor
  · intro c hc
    exact h c (List.mem_of_mem_head? hc)
  · match u, h with
    | [], _ => rfl
    | [c], h =>
        rw [h c List.mem_cons_self]
        rfl
    | [c, d], h =>
        rw [h c (by simp), h d (by simp)]
        rfl
    | c :: d :: e :: rest, h =>
        rw [h c (by simp), h d (by simp), h e (by simp)]
        rfl

end

/-!
# Reading
-/

theorem exists_of_bind_eq_ok {ε α β : Type} {result : Except ε α} {next : α → Except ε β} {b : β}
    (h : (result >>= next) = .ok b) : ∃ a, result = .ok a ∧ next a = .ok b := by
  cases result with
  | error e => cases h
  | ok a => exact ⟨a, rfl, h⟩

theorem user_of_ofParts {p : Parts} {url : Url} (h : ofParts p = .ok url) :
    escaped isUserPoint p.user = .ok url.user := by
  rcases exists_of_bind_eq_ok h with ⟨user, huser, h⟩
  rcases exists_of_bind_eq_ok h with ⟨host, _, h⟩
  rcases exists_of_bind_eq_ok h with ⟨port, _, h⟩
  dsimp only at h
  split at h
  · cases h
  · rcases exists_of_bind_eq_ok h with ⟨path, _, h⟩
    rcases exists_of_bind_eq_ok h with ⟨query, _, h⟩
    rcases exists_of_bind_eq_ok h with ⟨fragment, _, h⟩
    cases h
    exact huser

theorem user_of_parse {t : Text} {url : Url} (h : parse t = .ok url)
    (huser : (split t).user = []) : url.user = [] := by
  unfold parse at h
  split at h
  · cases h
  · split at h
    · cases h
    · have hescaped := user_of_ofParts h
      rw [huser] at hescaped
      exact (Except.ok.inj hescaped).symm

theorem user_of_rooted {url rooted : Url} (h : url.rooted = .ok rooted) : rooted.user = [] := by
  unfold Url.rooted rebuild at h
  dsimp only at h
  split at h
  · cases h
  · exact (Except.ok.inj (user_of_ofParts h)).symm

end Url

namespace Server

/-!
# The address of a request for the state
-/

theorem user_split_stateAddress (access : Access) :
    (Url.split access.stateAddress).user = (Url.split access.address).user := by
  have hend := Text.getLast?_dropWhileEnd (fun c => decide (c = '/')) access.address
  rcases Text.exists_eq_dropWhileEnd_append (fun c => decide (c = '/')) access.address with
    ⟨slashes, haddress, hslashes⟩
  -- Both addresses go on behind the configured one without the slashes at its end.
  have hlast : ∀ c ∈ (access.address.dropWhileEnd (· = '/')).getLast?, ¬ c = '/' :=
    fun c hc => of_decide_eq_false (hend c hc)
  have hpath : Url.IsBehindAuthority statePath := ⟨fun c hc => (Option.some.inj hc).symm, rfl⟩
  have hrest : Url.IsBehindAuthority slashes :=
    Url.isBehindAuthority_of_slashes fun c hc => of_decide_eq_true (hslashes c hc)
  have hauthority : Url.writtenAuthority access.stateAddress =
      Url.writtenAuthority access.address := by
    conv => rhs; rw [haddress]
    rw [Access.stateAddress, Url.writtenAuthority_append hpath hlast,
      Url.writtenAuthority_append hrest hlast]
  rw [Url.user_split, Url.user_split, hauthority]

/-- An address without a user gives no credentials. -/
theorem addressAuthorization_of_requestUrl {access : Access} {url : Url}
    (h : requestUrl access.stateAddress = .ok url)
    (huser : (Url.split access.address).user = []) : addressAuthorization url = none := by
  have hurl : url.user = [] := by
    rw [← user_split_stateAddress] at huser
    rcases Url.exists_of_bind_eq_ok h with ⟨parsed, hparsed, h⟩
    split at h
    · exact Url.user_of_rooted h
    · cases h
      exact Url.user_of_parse hparsed huser
  rw [addressAuthorization, Url.credentials, hurl]
  rfl

end Server
end TunnelBoard
