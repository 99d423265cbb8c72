import TunnelBoard.Proofs.Text.Writable
import TunnelBoard.Server.Access

/-!
# What becomes of a request for the state of a server

A request for the state of a server ends in one of three ways: with a snapshot,
with the reason why the server is unavailable, or with a fault of another kind.
The module says for every way to reach a server and for every behavior of it
which of the three it is.

A snapshot is what a successful answer gives whose body is a JSON object.  Four
things escape the two documented ends although the client is used as it should
be: credentials that cannot be written, an address that is none, a redirect to
an address that is none, and JSON that is nested too deeply.
-/

namespace TunnelBoard

namespace Server

/-!
# Sending

Whether a request is sent depends on the credentials and the address alone.
-/

/-- Whether the credentials can be written, if there are any. -/
def Access.IsWritable (access : Access) : Prop :=
  access.username = [] ∨ (access.username ++ access.password).IsWritable

theorem authorization_eq_ok_iff (access : Access) :
    (∃ header, access.authorization = .ok header) ↔ access.IsWritable := by
  unfold Access.authorization Access.IsWritable
  rw [Text.isWritable_append]
  simp only [← Charset.encode_utf8_eq_ok_iff, List.isEmpty_iff]
  by_cases hname : access.username = []
  · simp [hname]
  · simp only [hname, if_false, false_or]
    cases Charset.utf8.encode access.username with
    | error run => simp
    | ok bytes =>
        cases Charset.utf8.encode access.password with
        | error run => simp
        | ok bytes => simp

/-- A request is sent to an address. -/
structure Access.Contacts (access : Access) (url : Url) : Prop where
  isWritable : access.IsWritable
  address : requestUrl access.stateAddress = .ok url
  canName : canName url.host = true

/-- What becomes of the attempt to get a snapshot if the credentials can be written. -/
def Access.outcome (access : Access) (server : Behavior) : Outcome :=
  match requestUrl access.stateAddress with
  | .error .unwritable => .notJson (access.runtime.wording (.unwritable access.stateAddress))
  | .error flaw => .fault (.invalidUrl flaw)
  | .ok url =>
      if !canName url.host then .notJson (access.runtime.wording (.unnamable url.host))
      else settle access.runtime url server

theorem result_ask (access : Access) (header : Option Text) (server : Behavior) :
    (ask access.runtime access.stateAddress header server).result =
      .ok (access.outcome server) := by
  unfold ask Access.outcome
  cases requestUrl access.stateAddress with
  | error flaw => cases flaw <;> rfl
  | ok url =>
      dsimp only
      cases canName url.host <;> rfl

/-- The end that an outcome leads to. -/
def Access.conclude (access : Access) : Outcome → Except Fault Snapshot
  | .fault f => .error f
  | .failed detail => .error (.unavailable (.unreachable access.stateAddress detail))
  | .notJson _ => .error (.unavailable (.notJson access.stateAddress))
  | .payload _ (.map entries) => .ok (Snapshot.ofEntries entries)
  | .payload _ v => .error (.unavailable (.notObject access.stateAddress v.kindName))

theorem result_fetch (access : Access) (server : Behavior) :
    (access.fetch server).result =
      access.authorization.bind fun _ => access.conclude (access.outcome server) := by
  unfold Access.fetch
  rw [Run.result_beginFetch_bind, Run.result_bind, Run.result_ofExcept]
  apply congrArg access.authorization.bind
  funext header
  rw [Run.result_log_bind, Run.result_bind_ok (result_ask access header server)]
  cases access.outcome server with
  | payload status v => cases v <;> rfl
  | failed detail => rfl
  | notJson cause => rfl
  | fault f => rfl

/-!
# Answers

What becomes of an answer is read off its parts in the order in which the client
looks at them: coding, origin, redirect, status and JSON.
-/

theorem refusal?_of_isSuccess {answer : Answer} (url : Url)
    (h : Status.isSuccess answer.status = true) : Redirect.refusal? url answer = none := by
  have hstays : Status.isRedirect answer.status = false := by
    simp only [Status.isSuccess, Bool.and_eq_true, decide_eq_true_eq] at h
    simp only [Status.isRedirect, List.contains_cons, List.contains_nil, Bool.or_eq_false_iff,
      beq_eq_false_iff_ne, and_true]
    omega
  simp [Redirect.refusal?, Redirect.location?, hstays]

theorem judge_eq_payload_iff (runtime : Runtime) (url : Url) (answer : Answer) (status : Int)
    (v : Value) :
    judge runtime url answer = .payload status v ↔
      canTrace url = true ∧ Status.isSuccess answer.status = true ∧
        Json.readBytes runtime.nesting answer.body = .ok v ∧ status = answer.status := by
  unfold judge
  cases hsuccess : Status.isSuccess answer.status with
  | false =>
      cases canTrace url with
      | false => simp
      | true =>
          rcases Redirect.refusal? url answer with _ | _ | _ | _ <;> simp
  | true =>
      cases canTrace url with
      | false => simp
      | true =>
          rw [refusal?_of_isSuccess url hsuccess]
          cases Json.readBytes runtime.nesting answer.body with
          | ok w => simp [and_comm, eq_comm]
          | error e => cases e <;> simp

theorem judge_eq_fault_iff (runtime : Runtime) (url : Url) (answer : Answer) (f : Fault) :
    judge runtime url answer = .fault f ↔
      canTrace url = true ∧
        ((∃ flaw, Redirect.refusal? url answer = some (.target flaw) ∧ f = .invalidUrl flaw) ∨
          (Status.isSuccess answer.status = true ∧
            Json.readBytes runtime.nesting answer.body = .error .tooDeep ∧
              f = .nestedTooDeeply)) := by
  unfold judge
  cases hsuccess : Status.isSuccess answer.status with
  | false =>
      cases canTrace url with
      | false => simp
      | true =>
          rcases Redirect.refusal? url answer with _ | _ | _ | _ <;> simp [eq_comm]
  | true =>
      cases canTrace url with
      | false => simp
      | true =>
          rw [refusal?_of_isSuccess url hsuccess]
          cases Json.readBytes runtime.nesting answer.body with
          | ok w => simp
          | error e => cases e <;> simp [eq_comm]

/-- An answer arrives whose coding and origin can be read. -/
structure Access.Receives (access : Access) (answer : Answer) (url : Url) (body : Bytes) :
    Prop where
  contacts : access.Contacts url
  uncompressed : answer.uncompressed = .ok body
  canTrace : canTrace url = true

/-- A server delivers a value: it answers with a success whose body is JSON that can be read. -/
inductive Behavior.Delivers (runtime : Runtime) : Behavior → Value → Prop where
  | answers {answer : Answer} {body : Bytes} {v : Value}
      (success : Status.isSuccess answer.status = true)
      (content : answer.uncompressed = .ok body)
      (json : Json.readBytes runtime.nesting body = .ok v) : Delivers runtime (.answers answer) v

/-- A value that a server delivers arrives. -/
inductive Access.Obtains (access : Access) : Behavior → Value → Prop where
  | answers {answer : Answer} {url : Url} {body : Bytes} {v : Value}
      (received : access.Receives answer url body)
      (success : Status.isSuccess answer.status = true)
      (json : Json.readBytes access.runtime.nesting body = .ok v) :
      Obtains access (.answers answer) v

/-- A request ends with a fault other than the reason why a server is unavailable. -/
inductive Access.Escapes (access : Access) : Behavior → Fault → Prop where
  | credentials {server : Behavior} {f : Fault}
      (refused : access.authorization = .error f) : Escapes access server f
  | address {server : Behavior} {flaw : Url.Flaw} (isWritable : access.IsWritable)
      (refused : requestUrl access.stateAddress = .error flaw) (readable : flaw ≠ .unwritable) :
      Escapes access server (.invalidUrl flaw)
  | misuse {url : Url} {misuse : Misuse} {message : Text} (contacts : access.Contacts url) :
      Escapes access (.misused misuse message) (.misused misuse message)
  | redirect {answer : Answer} {url : Url} {body : Bytes} {flaw : Url.Flaw}
      (received : access.Receives answer url body)
      (refused : Redirect.refusal? url answer = some (.target flaw)) :
      Escapes access (.answers answer) (.invalidUrl flaw)
  | nesting {answer : Answer} {url : Url} {body : Bytes}
      (received : access.Receives answer url body)
      (success : Status.isSuccess answer.status = true)
      (deep : Json.readBytes access.runtime.nesting body = .error .tooDeep) :
      Escapes access (.answers answer) .nestedTooDeeply

/-!
# Ends of a request
-/

theorem outcome_of_contacts {access : Access} {url : Url} (h : access.Contacts url)
    (server : Behavior) : access.outcome server = settle access.runtime url server := by
  unfold Access.outcome
  rw [h.address]
  dsimp only
  rw [h.canName]
  rfl

theorem outcome_of_receives {access : Access} {answer : Answer} {url : Url} {body : Bytes}
    (h : access.Receives answer url body) :
    access.outcome (.answers answer) = judge access.runtime url { answer with body } := by
  rw [outcome_of_contacts h.contacts]
  unfold settle
  dsimp only
  rw [h.uncompressed]

/-- Everything that can become of an attempt to get a snapshot. -/
theorem outcome_cases {access : Access} (hwritable : access.IsWritable) (server : Behavior) :
    (∃ cause, access.outcome server = .notJson cause) ∨
      (∃ detail, access.outcome server = .failed detail) ∨
      (∃ flaw, requestUrl access.stateAddress = .error flaw ∧ flaw ≠ .unwritable ∧
        access.outcome server = .fault (.invalidUrl flaw)) ∨
      (∃ url misuse message, access.Contacts url ∧ server = .misused misuse message ∧
        access.outcome server = .fault (.misused misuse message)) ∨
      ∃ answer url body, server = .answers answer ∧ access.Receives answer url body := by
  cases haddress : requestUrl access.stateAddress with
  | error flaw =>
      have houtcome : access.outcome server =
          if flaw = .unwritable then
            .notJson (access.runtime.wording (.unwritable access.stateAddress))
          else .fault (.invalidUrl flaw) := by
        unfold Access.outcome
        rw [haddress]
        cases flaw <;> rfl
      by_cases hflaw : flaw = .unwritable
      · exact .inl ⟨_, by rw [houtcome, if_pos hflaw]⟩
      · exact .inr (.inr (.inl ⟨flaw, rfl, hflaw, by rw [houtcome, if_neg hflaw]⟩))
  | ok url =>
      cases hname : canName url.host with
      | false =>
          refine .inl ⟨access.runtime.wording (.unnamable url.host), ?_⟩
          unfold Access.outcome
          rw [haddress]
          simp [hname]
      | true =>
          have hcontacts : access.Contacts url := ⟨hwritable, haddress, hname⟩
          have houtcome := outcome_of_contacts hcontacts
          cases server with
          | fails message => exact .inr (.inl ⟨message, houtcome _⟩)
          | misused misuse message =>
              exact .inr (.inr (.inr (.inl ⟨url, misuse, message, hcontacts, rfl, houtcome _⟩)))
          | garbled message => exact .inl ⟨message, houtcome _⟩
          | answers answer =>
              rw [houtcome]
              unfold settle
              dsimp only
              cases hcontent : answer.uncompressed with
              | error flaw => exact .inr (.inl ⟨flaw.message, rfl⟩)
              | ok body =>
                  cases htrace : canTrace url with
                  | false =>
                      refine .inl ⟨access.runtime.wording (.untraceable url), ?_⟩
                      simp [judge, htrace]
                  | true =>
                      exact .inr (.inr (.inr (.inr
                        ⟨answer, url, body, rfl, hcontacts, hcontent, htrace⟩)))

theorem outcome_eq_payload_iff {access : Access} (hwritable : access.IsWritable)
    (server : Behavior) (v : Value) :
    (∃ status, access.outcome server = .payload status v) ↔ access.Obtains server v := by
  constructor
  · intro h
    rcases h with ⟨status, hpayload⟩
    rcases outcome_cases hwritable server with ⟨cause, h⟩ | ⟨detail, h⟩ | ⟨flaw, _, _, h⟩ |
      ⟨url, misuse, message, _, _, h⟩ | ⟨answer, url, body, hserver, received⟩
    · cases hpayload.symm.trans h
    · cases hpayload.symm.trans h
    · cases hpayload.symm.trans h
    · cases hpayload.symm.trans h
    · subst hserver
      rw [outcome_of_receives received] at hpayload
      rcases (judge_eq_payload_iff _ _ _ _ _).mp hpayload with ⟨_, hsuccess, hjson, _⟩
      exact .answers received hsuccess hjson
  · intro h
    cases h with
    | @answers answer url body v received success json =>
        refine ⟨answer.status, ?_⟩
        rw [outcome_of_receives received]
        exact (judge_eq_payload_iff _ _ _ _ _).mpr ⟨received.canTrace, success, json, rfl⟩

theorem outcome_eq_fault_iff {access : Access} {header : Option Text}
    (hheader : access.authorization = .ok header) (server : Behavior) (f : Fault) :
    access.outcome server = .fault f ↔ access.Escapes server f := by
  have hwritable : access.IsWritable := (authorization_eq_ok_iff access).mp ⟨header, hheader⟩
  constructor
  · intro hfault
    rcases outcome_cases hwritable server with ⟨cause, h⟩ | ⟨detail, h⟩ |
      ⟨flaw, haddress, hflaw, h⟩ |
      ⟨url, misuse, message, hcontacts, hserver, h⟩ | ⟨answer, url, body, hserver, received⟩
    · cases hfault.symm.trans h
    · cases hfault.symm.trans h
    · cases hfault.symm.trans h
      exact .address hwritable haddress hflaw
    · cases hfault.symm.trans h
      subst hserver
      exact .misuse hcontacts
    · subst hserver
      rw [outcome_of_receives received] at hfault
      rcases (judge_eq_fault_iff _ _ _ _).mp hfault with
        ⟨_, ⟨flaw, hrefused, hf⟩ | ⟨hsuccess, hdeep, hf⟩⟩
      · subst hf
        exact .redirect received hrefused
      · subst hf
        exact .nesting received hsuccess hdeep
  · intro hescapes
    cases hescapes with
    | credentials refused => cases hheader.symm.trans refused
    | @address _ flaw _ refused readable =>
        unfold Access.outcome
        rw [refused]
        cases flaw <;> first | exact absurd rfl readable | rfl
    | misuse contacts => exact outcome_of_contacts contacts _
    | @redirect answer url body flaw received refused =>
        rw [outcome_of_receives received]
        exact (judge_eq_fault_iff _ _ _ _).mpr ⟨received.canTrace, .inl ⟨flaw, refused, rfl⟩⟩
    | @nesting answer url body received success deep =>
        rw [outcome_of_receives received]
        exact (judge_eq_fault_iff _ _ _ _).mpr ⟨received.canTrace, .inr ⟨success, deep, rfl⟩⟩

theorem conclude_eq_ok_iff (access : Access) (o : Outcome) (s : Snapshot) :
    access.conclude o = .ok s ↔
      ∃ entries, (∃ status, o = .payload status (.map entries)) ∧
        s = Snapshot.ofEntries entries := by
  cases o with
  | payload status v => cases v <;> simp [Access.conclude, eq_comm]
  | _ => simp [Access.conclude]

theorem conclude_eq_error_iff (access : Access) (o : Outcome) (f : Fault)
    (hf : ∀ cause, f ≠ .unavailable cause) : access.conclude o = .error f ↔ o = .fault f := by
  cases o with
  | payload status v => cases v <;> simp [Access.conclude, (hf _).symm]
  | failed detail => simp [Access.conclude, (hf _).symm]
  | notJson cause => simp [Access.conclude, (hf _).symm]
  | fault g => simp [Access.conclude]

/-- A snapshot is the result if and only if it is read from an object that arrives. -/
theorem result_fetch_eq_ok_iff (access : Access) (server : Behavior) (s : Snapshot) :
    (access.fetch server).result = .ok s ↔
      ∃ entries, access.Obtains server (.map entries) ∧ s = Snapshot.ofEntries entries := by
  rw [result_fetch]
  cases hheader : access.authorization with
  | error f =>
      constructor
      · intro h
        cases h
      · intro h
        rcases h with ⟨entries, hobtains, _⟩
        cases hobtains with
        | answers received success json =>
            rcases (authorization_eq_ok_iff access).mpr received.contacts.isWritable with
              ⟨header, hok⟩
            cases hheader.symm.trans hok
  | ok header =>
      have hwritable : access.IsWritable := (authorization_eq_ok_iff access).mp ⟨header, hheader⟩
      show access.conclude (access.outcome server) = .ok s ↔ _
      rw [conclude_eq_ok_iff]
      apply exists_congr
      intro entries
      rw [outcome_eq_payload_iff hwritable]

theorem authorization_eq_error {access : Access} {f : Fault}
    (h : access.authorization = .error f) : ∃ run, f = .unencodable run := by
  unfold Access.authorization at h
  split at h
  · cases h
  · split at h <;> cases h <;> exact ⟨_, rfl⟩

theorem not_unavailable_of_escapes {access : Access} {server : Behavior} {f : Fault}
    (h : access.Escapes server f) (cause : Unavailable) : f ≠ .unavailable cause := by
  cases h with
  | credentials refused =>
      rcases authorization_eq_error refused with ⟨run, hf⟩
      subst hf
      intro h
      cases h
  | _ =>
      intro h
      cases h

theorem result_fetch_eq_error_iff (access : Access) (server : Behavior) {f : Fault}
    (hf : ∀ cause, f ≠ .unavailable cause) :
    (access.fetch server).result = .error f ↔ access.Escapes server f := by
  rw [result_fetch]
  cases hheader : access.authorization with
  | error g =>
      constructor
      · intro h
        cases h
        exact .credentials hheader
      · intro h
        have hwritable : ¬ access.IsWritable := by
          intro hwritable
          rcases (authorization_eq_ok_iff access).mpr hwritable with ⟨header, hok⟩
          cases hheader.symm.trans hok
        cases h with
        | credentials refused =>
            cases hheader.symm.trans refused
            rfl
        | address isWritable refused readable => exact absurd isWritable hwritable
        | misuse contacts => exact absurd contacts.isWritable hwritable
        | redirect received refused => exact absurd received.contacts.isWritable hwritable
        | nesting received success deep => exact absurd received.contacts.isWritable hwritable
  | ok header =>
      show access.conclude (access.outcome server) = .error f ↔ _
      rw [conclude_eq_error_iff access _ f hf, outcome_eq_fault_iff hheader]

/-!
# The promise

A reader of the dashboard is promised a snapshot for every object that a server
delivers, and in every other case the reason why the server is unavailable.
-/

/-- A request ends as it is promised. -/
def Access.KeepsPromise (access : Access) (server : Behavior) : Prop :=
  (∀ s, (access.fetch server).result = .ok s ↔
      ∃ entries, server.Delivers access.runtime (.map entries) ∧
        s = Snapshot.ofEntries entries) ∧
    ((¬ ∃ entries, server.Delivers access.runtime (.map entries)) →
      ∃ cause, (access.fetch server).result = .error (.unavailable cause))

theorem delivers_of_obtains {access : Access} {server : Behavior} {v : Value}
    (h : access.Obtains server v) : server.Delivers access.runtime v := by
  cases h with
  | answers received success json => exact .answers success received.uncompressed json

theorem delivers_unique {runtime : Runtime} {server : Behavior} {v w : Value}
    (hv : server.Delivers runtime v) (hw : server.Delivers runtime w) : v = w := by
  cases hv with
  | answers _ content json =>
      cases hw with
      | answers _ content' json' =>
          cases content.symm.trans content'
          cases json.symm.trans json'
          rfl

theorem keepsPromise_iff (access : Access) (server : Behavior) :
    access.KeepsPromise server ↔
      (¬ ∃ f, access.Escapes server f) ∧
        ∀ entries, server.Delivers access.runtime (.map entries) →
          access.Obtains server (.map entries) := by
  constructor
  · intro hpromise
    rcases hpromise with ⟨hok, hunavailable⟩
    constructor
    · intro h
      rcases h with ⟨f, hescapes⟩
      have hf := not_unavailable_of_escapes hescapes
      have herror := (result_fetch_eq_error_iff access server hf).mpr hescapes
      by_cases hdelivers : ∃ entries, server.Delivers access.runtime (.map entries)
      · rcases hdelivers with ⟨entries, hentries⟩
        cases herror.symm.trans ((hok _).mpr ⟨entries, hentries, rfl⟩)
      · rcases hunavailable hdelivers with ⟨cause, hcause⟩
        exact hf cause (Except.error.inj (herror.symm.trans hcause))
    · intro entries hentries
      rcases (result_fetch_eq_ok_iff access server _).mp ((hok _).mpr ⟨entries, hentries, rfl⟩)
        with ⟨others, hobtains, _⟩
      rw [delivers_unique hentries (delivers_of_obtains hobtains)]
      exact hobtains
  · intro h
    rcases h with ⟨hescapes, hobtains⟩
    constructor
    · intro s
      rw [result_fetch_eq_ok_iff]
      apply exists_congr
      intro entries
      constructor
      · intro h
        exact ⟨delivers_of_obtains h.1, h.2⟩
      · intro h
        exact ⟨hobtains entries h.1, h.2⟩
    · intro hnone
      cases hresult : (access.fetch server).result with
      | ok s =>
          rcases (result_fetch_eq_ok_iff access server s).mp hresult with ⟨entries, h, _⟩
          exact absurd ⟨entries, delivers_of_obtains h⟩ hnone
      | error f =>
          by_cases hf : ∃ cause, f = .unavailable cause
          · rcases hf with ⟨cause, hcause⟩
            exact ⟨cause, by rw [hcause]⟩
          · have hother : ∀ cause, f ≠ .unavailable cause := fun cause h => hf ⟨cause, h⟩
            exact absurd ⟨f, (result_fetch_eq_error_iff access server hother).mp hresult⟩ hescapes

/--
A request ends with a snapshot if and only if an object arrives, with a fault of
another kind if and only if something escapes, and otherwise with the reason why
the server is unavailable.  It ends as it is promised if and only if nothing
escapes and every object that the server delivers arrives.
-/
theorem fetch_classified (access : Access) (server : Behavior) :
    (∀ s, (access.fetch server).result = .ok s ↔
        ∃ entries, access.Obtains server (.map entries) ∧ s = Snapshot.ofEntries entries) ∧
      (∀ f, (∀ cause, f ≠ .unavailable cause) →
        ((access.fetch server).result = .error f ↔ access.Escapes server f)) ∧
      ((∃ cause, (access.fetch server).result = .error (.unavailable cause)) ↔
        (¬ ∃ entries, access.Obtains server (.map entries)) ∧ ¬ ∃ f, access.Escapes server f) ∧
      (access.KeepsPromise server ↔
        (¬ ∃ f, access.Escapes server f) ∧
          ∀ entries, server.Delivers access.runtime (.map entries) →
            access.Obtains server (.map entries)) := by
  refine ⟨result_fetch_eq_ok_iff access server,
    fun f hf => result_fetch_eq_error_iff access server hf, ?_, keepsPromise_iff access server⟩
  constructor
  · intro h
    rcases h with ⟨cause, hcause⟩
    constructor
    · intro hobtains
      rcases hobtains with ⟨entries, hentries⟩
      cases hcause.symm.trans
        ((result_fetch_eq_ok_iff access server _).mpr ⟨entries, hentries, rfl⟩)
    · intro hescapes
      rcases hescapes with ⟨f, hf⟩
      have hother := not_unavailable_of_escapes hf
      have herror := (result_fetch_eq_error_iff access server hother).mpr hf
      exact hother cause (Except.error.inj (herror.symm.trans hcause))
  · intro h
    cases hresult : (access.fetch server).result with
    | ok s =>
        rcases (result_fetch_eq_ok_iff access server s).mp hresult with ⟨entries, hobtains, _⟩
        exact absurd ⟨entries, hobtains⟩ h.1
    | error f =>
        by_cases hf : ∃ cause, f = .unavailable cause
        · rcases hf with ⟨cause, hcause⟩
          exact ⟨cause, by rw [hcause]⟩
        · have hother : ∀ cause, f ≠ .unavailable cause := fun cause h => hf ⟨cause, h⟩
          exact absurd ⟨f, (result_fetch_eq_error_iff access server hother).mp hresult⟩ h.2

end Server
end TunnelBoard
