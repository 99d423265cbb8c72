import TunnelBoard.Proofs.Number.ScriptLiterals
import TunnelBoard.Site.Deployment

/-!
# Loading a deployment

A deployment is loaded, or it is refused for one of two reasons: a site that is not
debugged has no secret key, or the seconds to wait are not written as a number.  The key
is looked at first.  What is loaded is fit for debugging as a whole or not at all.
-/

namespace TunnelBoard

theorem Environment.number_of_literal {raw : Text} (default : Binary64)
    (h : Binary64.Literal CodePoint.isDigit raw.trim) :
    ∃ x, Environment.number default (some raw) = .ok x := by
  have hsome := (Binary64.isSome_ofText?_iff (Text.isTrimmed_trim raw)).mpr h
  rcases Option.isSome_iff_exists.mp hsome with ⟨x, hx⟩
  refine ⟨x, ?_⟩
  rw [Environment.number, hx]

theorem Environment.number_of_not_literal {raw : Text} (default : Binary64)
    (h : ¬ Binary64.Literal CodePoint.isDigit raw.trim) :
    Environment.number default (some raw) = .error (.notNumeral raw.trim.quoted) := by
  have hnone : Binary64.ofText? raw.trim = none := by
    rw [← Binary64.isSome_ofText?_iff (Text.isTrimmed_trim raw)] at h
    exact Option.not_isSome_iff_eq_none.mp h
  rw [Environment.number, hnone]

namespace Site
namespace Deployment

/-!
# What an environment says
-/

/-- Nothing is said of debugging, or a text that stands for true. -/
def AsksForDebugging (environment : Environment) : Prop :=
  ∀ raw ∈ environment.get? "DJANGO_DEBUG",
    raw.trim.lower ∈ (["1", "true", "t", "yes", "y", "on"] : List Text)

/-- No secret key is given, or an empty one. -/
def LacksKey (environment : Environment) : Prop :=
  ∀ key ∈ environment.get? "DJANGO_SECRET_KEY", key = []

/-- The site would run without debugging and without a secret key. -/
def IsInsecure (environment : Environment) : Prop :=
  ¬ AsksForDebugging environment ∧ LacksKey environment

/-- The seconds to wait are left open or are written as a number. -/
def WritesTimeout (environment : Environment) : Prop :=
  ∀ raw ∈ environment.get? "FRPS_DASHBOARD_TIMEOUT",
    Binary64.Literal CodePoint.isDigit raw.trim

/-!
# What is loaded
-/

def securityLayer : Text := "django.middleware.security.SecurityMiddleware"

/-- The layer that static files are served by. -/
def staticLayer : Text := "whitenoise.middleware.WhiteNoiseMiddleware"

/-- The storage that holds static files in compressed form. -/
def compressedStorage : Text := "whitenoise.storage.CompressedManifestStaticFilesStorage"

/-- The layers of every site. -/
def commonLayers : List Text :=
  [ securityLayer
  , "django.middleware.common.CommonMiddleware"
  , "django.middleware.clickjacking.XFrameOptionsMiddleware" ]

/-- The key that a site runs with: the given one, or that of development for debugging. -/
structure IsKey (environment : Environment) (key : Text) : Prop where
  given : ∀ other ∈ environment.get? "DJANGO_SECRET_KEY", other ≠ [] → key = other
  development : LacksKey environment →
    AsksForDebugging environment ∧ key = "dev-only-insecure-secret-key"

/--
A deployment does what its environment says, and it serves and stores static files itself
if and only if it is not debugged.
-/
structure Suits (environment : Environment) (deployment : Deployment) : Prop where
  debug : deployment.debug = true ↔ AsksForDebugging environment
  key : IsKey environment deployment.secretKey
  layers : deployment.middleware.filter (· ≠ staticLayer) = commonLayers
  served : deployment.middleware.count staticLayer = if deployment.debug then 0 else 1
  behindSecurity : deployment.debug = false →
    [securityLayer, staticLayer] <:+: deployment.middleware
  stored : deployment.storage = compressedStorage ↔ deployment.debug = false

/-!
# Debugging and the secret key
-/

theorem flag_iff (environment : Environment) :
    Environment.flag true (environment.get? "DJANGO_DEBUG") = true ↔
      AsksForDebugging environment := by
  unfold AsksForDebugging
  cases environment.get? "DJANGO_DEBUG" with
  | none => exact iff_of_true rfl nofun
  | some raw =>
      show Environment.affirms raw = true ↔ _
      rw [Environment.affirms, List.contains_iff_mem]
      exact ⟨fun h _ hraw => Option.mem_some_iff.mp hraw ▸ h, fun h => h raw rfl⟩

theorem keyFor_of_given (debug : Bool) {key : Text} (h : key ≠ []) :
    keyFor debug (some key) = .ok key := by
  cases key with
  | nil => exact absurd rfl h
  | cons c rest => rfl

theorem keyFor_of_lacking (debug : Bool) {given : Option Text} (h : ∀ key ∈ given, key = []) :
    keyFor debug given = if debug then .ok developmentKey else .error .missingSecretKey := by
  cases given with
  | none => rfl
  | some key =>
      rw [h key rfl]
      rfl

theorem keyFor_of_isInsecure {environment : Environment} (h : IsInsecure environment) :
    keyFor (Environment.flag true (environment.get? "DJANGO_DEBUG"))
      (environment.get? "DJANGO_SECRET_KEY") = .error .missingSecretKey := by
  have hdebug := Bool.eq_false_iff.mpr (mt (flag_iff environment).mp h.1)
  rw [keyFor_of_lacking _ h.2, hdebug]
  rfl

theorem exists_keyFor {environment : Environment} (h : ¬ IsInsecure environment) :
    ∃ key, keyFor (Environment.flag true (environment.get? "DJANGO_DEBUG"))
        (environment.get? "DJANGO_SECRET_KEY") = .ok key ∧ IsKey environment key := by
  by_cases hlacks : LacksKey environment
  · have hasks : AsksForDebugging environment :=
      Classical.byContradiction fun hnot => h ⟨hnot, hlacks⟩
    refine ⟨developmentKey, ?_, fun given hgiven hne => absurd (hlacks given hgiven) hne,
      fun _ => ⟨hasks, rfl⟩⟩
    rw [keyFor_of_lacking _ hlacks, (flag_iff environment).mpr hasks]
    rfl
  · rcases not_forall.mp hlacks with ⟨key, hkey⟩
    rcases Classical.not_imp.mp hkey with ⟨hgiven, hne⟩
    refine ⟨key, ?_, ?_, fun hlacking => absurd hlacking hlacks⟩
    · rw [Option.mem_def.mp hgiven, keyFor_of_given _ hne]
    · intro given hother _
      exact Option.mem_unique hgiven hother

/-!
# Layers and storage
-/

theorem staticLayer_not_mem : staticLayer ∉ commonLayers := by decide +kernel

theorem middlewareFor_true : middlewareFor true = commonLayers := rfl

theorem middlewareFor_false :
    middlewareFor false = securityLayer :: staticLayer :: commonLayers.tail := rfl

theorem filter_middlewareFor (debug : Bool) :
    (middlewareFor debug).filter (· ≠ staticLayer) = commonLayers := by
  have hcommon : commonLayers.filter (· ≠ staticLayer) = commonLayers := by
    rw [List.filter_eq_self]
    intro layer hlayer
    exact decide_eq_true fun heq => staticLayer_not_mem (heq ▸ hlayer)
  cases debug with
  | true => rw [middlewareFor_true, hcommon]
  | false =>
      rw [middlewareFor_false, List.filter_cons, List.filter_cons_of_neg (by simp)]
      exact List.filter_cons.symm.trans hcommon

theorem count_middlewareFor (debug : Bool) :
    (middlewareFor debug).count staticLayer = if debug then 0 else 1 := by
  have hcommon : commonLayers.count staticLayer = 0 := List.count_eq_zero.mpr staticLayer_not_mem
  cases debug with
  | true => exact hcommon
  | false =>
      have hfront : (middlewareFor false).Perm (staticLayer :: commonLayers) := List.Perm.swap _ _ _
      rw [hfront.count_eq, List.count_cons_self, hcommon]
      rfl

theorem behindSecurity_middlewareFor {debug : Bool} (h : debug = false) :
    [securityLayer, staticLayer] <:+: middlewareFor debug := by
  subst h
  exact ⟨[], _, rfl⟩

theorem storageFor_eq_iff (debug : Bool) :
    storageFor debug = compressedStorage ↔ debug = false := by
  cases debug <;> decide +kernel

/-!
# Loading
-/

theorem load_of_isInsecure {environment : Environment} (h : IsInsecure environment) :
    load environment = .error .missingSecretKey := by
  unfold load
  simp only [keyFor_of_isInsecure h]
  rfl

theorem load_of_not_writesTimeout {environment : Environment} (h : ¬ IsInsecure environment)
    (htimeout : ¬ WritesTimeout environment) :
    ∃ raw ∈ environment.get? "FRPS_DASHBOARD_TIMEOUT",
      ¬ Binary64.Literal CodePoint.isDigit raw.trim ∧
        load environment = .error (.notNumeral raw.trim.quoted) := by
  rcases not_forall.mp htimeout with ⟨raw, hraw⟩
  rcases Classical.not_imp.mp hraw with ⟨hset, hliteral⟩
  rcases exists_keyFor h with ⟨key, hkey, _⟩
  refine ⟨raw, hset, hliteral, ?_⟩
  unfold load
  simp only [hkey, Option.mem_def.mp hset, Environment.number_of_not_literal patience hliteral]
  rfl

theorem exists_load {environment : Environment} (h : ¬ IsInsecure environment)
    (htimeout : WritesTimeout environment) :
    ∃ deployment, load environment = .ok deployment ∧ Suits environment deployment := by
  rcases exists_keyFor h with ⟨key, hkey, hisKey⟩
  have hnumber : ∃ x, Environment.number patience (environment.get? "FRPS_DASHBOARD_TIMEOUT") =
      .ok x := by
    cases hset : environment.get? "FRPS_DASHBOARD_TIMEOUT" with
    | none => exact ⟨patience, rfl⟩
    | some raw => exact Environment.number_of_literal patience (htimeout raw hset)
  rcases hnumber with ⟨timeout, hseconds⟩
  refine ⟨_, by unfold load; simp only [hkey, hseconds]; rfl, ?_⟩
  exact
    { debug := flag_iff environment
      key := hisKey
      layers := filter_middlewareFor _
      served := count_middlewareFor _
      behindSecurity := behindSecurity_middlewareFor
      stored := storageFor_eq_iff _ }

theorem suits_of_load {environment : Environment} {deployment : Deployment}
    (h : load environment = .ok deployment) : Suits environment deployment := by
  have hsafe : ¬ IsInsecure environment := by
    intro hinsecure
    rw [load_of_isInsecure hinsecure] at h
    cases h
  by_cases htimeout : WritesTimeout environment
  · rcases exists_load hsafe htimeout with ⟨other, hload, hsuits⟩
    rw [hload] at h
    cases h
    exact hsuits
  · rcases load_of_not_writesTimeout hsafe htimeout with ⟨raw, _, _, hload⟩
    rw [hload] at h
    cases h

/-- A site that is not debugged only runs with a secret key of its own. -/
theorem exists_key_of_load {environment : Environment} {deployment : Deployment}
    (h : load environment = .ok deployment) (hdebug : deployment.debug = false) :
    ∃ key ∈ environment.get? "DJANGO_SECRET_KEY", key ≠ [] ∧ deployment.secretKey = key := by
  have hsuits := suits_of_load h
  have hfilled : ¬ LacksKey environment := by
    intro hlacks
    have hasks := hsuits.debug.mpr (hsuits.key.development hlacks).1
    rw [hdebug] at hasks
    cases hasks
  rcases not_forall.mp hfilled with ⟨key, hkey⟩
  rcases Classical.not_imp.mp hkey with ⟨hgiven, hne⟩
  exact ⟨key, hgiven, hne, hsuits.key.given key hgiven hne⟩

/--
Loading is safe.  A site that would run without debugging and without a secret key is
refused, whatever else its environment says.  Any other is refused if and only if the
seconds to wait are given, but not as a literal, which is then shown; and otherwise it is
loaded as its environment says, fit for debugging as a whole or not at all.
-/
theorem load_switches_as_whole (environment : Environment) :
    (load environment = .error .missingSecretKey ↔ IsInsecure environment) ∧
      (∀ shown, load environment = .error (.notNumeral shown) ↔
        ¬ IsInsecure environment ∧
          ∃ raw ∈ environment.get? "FRPS_DASHBOARD_TIMEOUT",
            ¬ Binary64.Literal CodePoint.isDigit raw.trim ∧ shown = raw.trim.quoted) ∧
      ((∃ deployment, load environment = .ok deployment ∧ Suits environment deployment) ↔
        ¬ IsInsecure environment ∧ WritesTimeout environment) := by
  by_cases hinsecure : IsInsecure environment
  · have hload := load_of_isInsecure hinsecure
    refine ⟨iff_of_true hload hinsecure, fun shown => ?_, ?_⟩
    · rw [hload]
      exact iff_of_false nofun fun h => h.1 hinsecure
    · rw [hload]
      exact iff_of_false nofun fun h => h.1 hinsecure
  · by_cases htimeout : WritesTimeout environment
    · rcases exists_load hinsecure htimeout with ⟨deployment, hload, hsuits⟩
      refine ⟨?_, fun shown => ?_, iff_of_true ⟨deployment, hload, hsuits⟩ ⟨hinsecure, htimeout⟩⟩
      · rw [hload]
        exact iff_of_false nofun hinsecure
      · rw [hload]
        refine iff_of_false nofun ?_
        rintro ⟨_, raw, hset, hliteral, _⟩
        exact hliteral (htimeout raw hset)
    · rcases load_of_not_writesTimeout hinsecure htimeout with ⟨raw, hset, hliteral, hload⟩
      rw [hload]
      refine ⟨iff_of_false nofun hinsecure, fun shown => ?_,
        iff_of_false nofun fun h => htimeout h.2⟩
      constructor
      · intro h
        exact ⟨hinsecure, raw, hset, hliteral, (Fault.notNumeral.inj (Except.error.inj h)).symm⟩
      · rintro ⟨_, other, hother, _, hshown⟩
        rw [hshown, Option.mem_unique hset hother]

/-- An empty key is refused before the seconds to wait are looked at. -/
example :
    load [("DJANGO_DEBUG", " oN.\n"), ("DJANGO_SECRET_KEY", ""), ("FRPS_DASHBOARD_TIMEOUT", "")] =
      .error .missingSecretKey := by
  rfl

end Deployment
end Site
end TunnelBoard
