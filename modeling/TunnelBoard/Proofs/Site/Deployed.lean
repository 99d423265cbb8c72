import TunnelBoard.Proofs.Site.Credentials
import TunnelBoard.Proofs.Site.Loading
import TunnelBoard.Proofs.Text.Padding

/-!
# The deployed site

What is shown of the site holds for all configurations and all policies.  A deployed
site has those of its deployment.  They are fit for every request, and those of an
empty environment are the default ones.

The credentials are two variables of the environment.  They have no say in whether
the site is deployed, and none in what its visitors get.
-/

namespace TunnelBoard

/-!
# Credentials in an environment
-/

theorem Text.isWritable_trim {t : Text} (h : t.IsWritable) : t.trim.IsWritable := by
  rcases exists_eq_padded_trim t with ⟨before, after, ht, _, _⟩
  rw [ht, isWritable_append, isWritable_append] at h
  exact h.2.1

theorem Environment.text_nil (t : Text) : text [] (some t) = t.trim := by
  unfold text
  dsimp only
  split
  · rename_i hempty
    exact (List.isEmpty_iff.mp hempty).symm
  · rfl

/-- The credentials without blanks around them. -/
def Server.Credentials.trimmed (c : Credentials) : Credentials :=
  { name := c.name.trim
    password := c.password.trim
    isWritable_name := Text.isWritable_trim c.isWritable_name
    isWritable_password := Text.isWritable_trim c.isWritable_password }

/-- The environment with these credentials in place of its own. -/
def Environment.withCredentials (environment : Environment) (c : Server.Credentials) :
    Environment :=
  ("FRPS_DASHBOARD_USER", c.name) :: ("FRPS_DASHBOARD_PASSWORD", c.password) :: environment

theorem Environment.get?_withCredentials_of_ne (environment : Environment)
    (c : Server.Credentials) {name : Text} (hname : name ≠ "FRPS_DASHBOARD_USER")
    (hpassword : name ≠ "FRPS_DASHBOARD_PASSWORD") :
    (environment.withCredentials c).get? name = environment.get? name := by
  have huser : (name == ("FRPS_DASHBOARD_USER" : Text)) = false := beq_eq_false_iff_ne.mpr hname
  have hsecret : (name == ("FRPS_DASHBOARD_PASSWORD" : Text)) = false :=
    beq_eq_false_iff_ne.mpr hpassword
  rw [get?, withCredentials, List.lookup_cons, huser, List.lookup_cons, hsecret]
  rfl

namespace Site

open Server (Credentials)

/-!
# Loading
-/

namespace Deployment

variable {environment : Environment} {s : Deployment}

def withCredentials (s : Deployment) (c : Credentials) : Deployment :=
  { s with username := c.name, password := c.password }

/-- The credentials have no say in whether a deployment is loaded. -/
theorem load_withCredentials (environment : Environment) (c : Credentials) :
    load (environment.withCredentials c) =
      (load environment).map fun s => s.withCredentials c.trimmed := by
  have hname : Environment.text [] ((environment.withCredentials c).get? "FRPS_DASHBOARD_USER") =
      c.trimmed.name := Environment.text_nil c.name
  have hpassword :
      Environment.text [] ((environment.withCredentials c).get? "FRPS_DASHBOARD_PASSWORD") =
        c.trimmed.password := Environment.text_nil c.password
  unfold load
  simp (disch := decide) only [Environment.get?_withCredentials_of_ne, hname, hpassword]
  cases keyFor (Environment.flag true (environment.get? "DJANGO_DEBUG"))
      (environment.get? "DJANGO_SECRET_KEY") with
  | error f => rfl
  | ok key =>
      cases Environment.number patience (environment.get? "FRPS_DASHBOARD_TIMEOUT") with
      | error f => rfl
      | ok timeout => rfl

theorem address_of_load (h : load environment = .ok s) :
    s.address = Environment.text localAddress (environment.get? "FRPS_DASHBOARD_URL") := by
  rcases Url.exists_of_bind_eq_ok h with ⟨key, _, h⟩
  rcases Url.exists_of_bind_eq_ok h with ⟨timeout, _, h⟩
  cases h
  rfl

end Deployment

/-- An empty environment deploys the site that is not configured. -/
theorem load_nil (runtime : Server.Runtime) :
    ∃ s, Deployment.load [] = .ok s ∧ Config.ofDeployment runtime s = Config.default runtime ∧
      Policy.ofDeployment s = Policy.default :=
  ⟨_, rfl, rfl, rfl⟩

/-!
# Configurations of deployments
-/

namespace Config

variable (runtime : Server.Runtime) (s : Deployment)

theorem isWellTyped_ofDeployment : (ofDeployment runtime s).IsWellTyped :=
  ⟨⟨_, rfl⟩, ⟨_, rfl⟩, ⟨_, rfl⟩, ⟨_, rfl⟩, ⟨_, rfl⟩⟩

theorem ofDeployment_withCredentials (c : Credentials) :
    ofDeployment runtime (s.withCredentials c) =
      (ofDeployment runtime s).withAccess s.address c :=
  rfl

end Config

theorem Policy.ofDeployment_withCredentials (s : Deployment) (c : Credentials) :
    ofDeployment (s.withCredentials c) = ofDeployment s :=
  rfl

/-!
# Responses of deployments
-/

section

variable {environment : Environment} {s : Deployment} (runtime : Server.Runtime)

/-- The response to a request when the site is deployed. -/
def Deployment.respond (s : Deployment) (pages : ErrorPages) (server : Server.Behavior)
    (r : Request) : Run Response :=
  Site.respond pages (Policy.ofDeployment s) (Config.ofDeployment runtime s) server r

/--
A deployed site asks the server at the address in its environment: once for a request
that needs the state, and never for another.
-/
theorem contact_of_load (h : Deployment.load environment = .ok s) :
    ∃ access : Server.Access,
      access.address =
          Environment.text Deployment.localAddress (environment.get? "FRPS_DASHBOARD_URL") ∧
        ∀ pages server r,
          (r.NeedsState (Policy.ofDeployment s) →
            (s.respond runtime pages server r).FetchesOnce access.request?) ∧
          (¬ r.NeedsState (Policy.ofDeployment s) →
            (s.respond runtime pages server r).IsQuiet) := by
  rcases exists_access (Config.isWellTyped_ofDeployment runtime s) with
    ⟨access, haccess, haddress⟩
  refine ⟨access, ?_, ?_⟩
  · rw [← Deployment.address_of_load h]
    exact (Value.text.inj haddress).symm
  · intro pages server r
    exact ⟨fun hneeds => fetchesOnce_respond haccess rfl hneeds,
      fun hneeds => isQuiet_respond hneeds⟩

theorem Response.Agree.body_eq {policy : Policy} {x y : Except Fault Response}
    (h : Agree policy x y) (hdebug : policy.debug = false) :
    x.map Response.body = y.map Response.body := by
  cases h with
  | fault f => rfl
  | response h =>
      rcases h.body with hbody | hreport
      · exact congrArg Except.ok hbody
      · cases hdebug.symm.trans hreport.debug

/--
A site is deployed with all credentials or with none.  What it answers does not
depend on them, reports for developers apart, and if it is not debugged, there are
no such reports.
-/
theorem responses_of_load (h : Deployment.load environment = .ok s) (c d : Credentials) :
    ∃ first second,
      Deployment.load (environment.withCredentials c) = .ok first ∧
        Deployment.load (environment.withCredentials d) = .ok second ∧
        ∀ pages server r,
          let one := first.respond runtime pages server r
          let other := second.respond runtime pages server r
          Agrees (Server.Request.DifferInHeader s.address c.trimmed.header d.trimmed.header)
              (Policy.ofDeployment s) one other ∧
            (s.debug = false → one.result.map Response.body = other.result.map Response.body) := by
  refine ⟨s.withCredentials c.trimmed, s.withCredentials d.trimmed, ?_, ?_, ?_⟩
  · rw [Deployment.load_withCredentials, h]
    rfl
  · rw [Deployment.load_withCredentials, h]
    rfl
  · intro pages server r one other
    have hagrees :
        Agrees (Server.Request.DifferInHeader s.address c.trimmed.header d.trimmed.header)
          (Policy.ofDeployment s) one other := by
      unfold one other Deployment.respond
      rw [Policy.ofDeployment_withCredentials, Policy.ofDeployment_withCredentials,
        Config.ofDeployment_withCredentials, Config.ofDeployment_withCredentials]
      exact agrees_respond (alike_withAccess _ s.address c.trimmed d.trimmed server)
    exact ⟨hagrees, fun hdebug => hagrees.result.body_eq hdebug⟩

end

end Site
end TunnelBoard
