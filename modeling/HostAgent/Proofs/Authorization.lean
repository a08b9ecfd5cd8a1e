import HostAgent.Proofs.IdentityRequests

/-!
# `Proofs.Authorization` — the credentials a client presents

The basic method takes its user name and its password each from the environment when the variable
is set, and from the settings otherwise (`effective`); the choice comes first and the emptiness
test after it, so a variable set to the empty text hides the setting and leaves the value missing.
`credentialsFor` states the outcome: the certificate method needs nothing, the basic method needs
both values present and non-empty, and anything else is a `missingCredentials` fault.

A client over HTTP resolves the credentials once, when it is made, and keeps them only when they
resolve. Every request it sends then carries the authorization those credentials call for
(`authorizationFor`): one `Basic` header with the base64 form of `user:password` for basic
credentials, none otherwise. The requests are observed where they arrive: `World.SentOnly P`
says that the server received only requests satisfying `P`.

The main statement is `basic_authorization_follows_credentials`.
-/

namespace HostAgent

open HostAgent.Http HostAgent.Remote HostAgent.Config HostAgent.Store Agent

/-! ## Resolving the credentials -/

/-- The value of an environment variable, `none` when it is not set. -/
def World.var (w : World) (name : String) : Option String :=
  (w.env.find? (·.1 == name)).map (·.2)

namespace Remote

/-- A credential's value: the variable's when it is set, even to the empty text, else the
setting's. -/
def effective (fromEnv fromConfig : Option String) : Option String :=
  match fromEnv with
  | some v => some v
  | none => fromConfig

/-- A value that counts as given: present and not empty. -/
def Given (v : Option String) (s : String) : Prop := v = some s ∧ s ≠ ""

/-- The fault of basic authentication without a user name or a password. -/
def missingBasic : Fault :=
  .missingCredentials
    "Username and password must be defined in configuration file with BASIC authentication method."

/-- The credentials a method calls for, from the user name and the password in force. -/
def credentialsFor (method : AuthMethod) (u p : Option String) : Except Fault Credentials :=
  match method, u, p with
  | .cert, _, _ => .ok .cert
  | .basic, some u, some p => if u ≠ "" ∧ p ≠ "" then .ok (.basic u p) else .error missingBasic
  | .basic, _, _ => .error missingBasic

/-- Picking a value is the emptiness test applied to the effective value. -/
theorem pick_eq (fromEnv fromConfig : Option String) :
    pick fromEnv fromConfig = match effective fromEnv fromConfig with
      | some s => if s = "" then none else some s
      | none => none := by
  cases fromEnv <;> cases fromConfig <;> simp [pick, effective, Option.orElse, String.isEmpty_iff]

/-- Both picked values present is exactly basic credentials. -/
theorem credentialsFor_basic (eu cu ep cp : Option String) :
    (match pick eu cu, pick ep cp with
      | some u, some p => Except.ok (Credentials.basic u p)
      | _, _ => Except.error missingBasic) =
      credentialsFor .basic (effective eu cu) (effective ep cp) := by
  rw [pick_eq, pick_eq]
  rcases effective eu cu with _ | un <;> rcases effective ep cp with _ | pw
  · rfl
  · simp [credentialsFor]
  · by_cases hu : un = "" <;> simp [credentialsFor, hu]
  · by_cases hu : un = "" <;> by_cases hp : pw = "" <;> simp [credentialsFor, hu, hp]

/-- **Resolving the credentials answers what `credentialsFor` says**, from the values the
environment and the settings put in force, and writes at most to the journal. -/
theorem resolveCredentials_run (c : AgentConfig) (w : World) :
    ∃ w', (resolveCredentials c).run w =
      (credentialsFor c.authMethod (effective (w.var usernameVar) c.username)
        (effective (w.var passwordVar) c.password), w') ∧ w.LogOnly w' := by
  unfold resolveCredentials
  rcases hm : c.authMethod with _ | _
  · have hu : (env? usernameVar).run w = (.ok (w.var usernameVar), w) := rfl
    have hp : (env? passwordVar).run w = (.ok (w.var passwordVar), w) := rfl
    rw [run_bind_ok hu, run_bind_ok hp, ← credentialsFor_basic]
    dsimp only
    rcases hu' : pick (w.var usernameVar) c.username with _ | u <;>
      rcases hp' : pick (w.var passwordVar) c.password with _ | p
    case some.some =>
      obtain ⟨w', hw, hlo⟩ := run_debug ("Using BASIC authentication as " ++ u) w
      exact ⟨w', by rw [run_bind_ok hw]; rfl, hlo⟩
    all_goals exact ⟨w, rfl, .refl w⟩
  · exact ⟨w, rfl, .refl w⟩

/-! ## What the outcome is -/

section Outcome

variable {method : AuthMethod} {u p : Option String}

/-- The certificate comes exactly from the certificate method. -/
theorem credentialsFor_eq_cert : credentialsFor method u p = .ok .cert ↔ method = .cert := by
  cases method with
  | cert => simp [credentialsFor]
  | basic =>
    rcases u with _ | un <;> rcases p with _ | pw <;> simp [credentialsFor]
    split <;> simp

/-- Basic credentials come exactly from the basic method with both values given. -/
theorem credentialsFor_eq_basic {un pw : String} :
    credentialsFor method u p = .ok (.basic un pw) ↔
      method = .basic ∧ Given u un ∧ Given p pw := by
  cases method with
  | cert => simp [credentialsFor]
  | basic =>
    rcases u with _ | u <;> rcases p with _ | p
    case some.some =>
      by_cases hu : u = "" <;> by_cases hp : p = "" <;> simp [credentialsFor, Given, hu, hp]
      grind
    all_goals simp [credentialsFor, Given]

/-- **A missing credential is the only fault**, and it comes exactly when the basic method lacks
a given user name or password. -/
theorem credentialsFor_missing :
    (∃ detail, credentialsFor method u p = .error (.missingCredentials detail)) ↔
      method = .basic ∧ ¬ ∃ un pw, Given u un ∧ Given p pw := by
  -- the outcome is credentials or `missingBasic`; which one is what `credentialsFor_eq_basic` says
  have hshape : ∀ r, credentialsFor method u p = r →
      r = .error missingBasic ∨ ∃ cr, r = .ok cr := by
    intro r hr
    subst hr
    unfold credentialsFor
    split
    · exact .inr ⟨_, rfl⟩
    · split
      · exact .inr ⟨_, rfl⟩
      · exact .inl rfl
    · exact .inl rfl
  constructor
  · rintro ⟨detail, hd⟩
    refine ⟨?_, ?_⟩
    · cases method with
      | cert => simp [credentialsFor] at hd
      | basic => rfl
    · rintro ⟨un, pw, hu, hp⟩
      cases method with
      | cert => simp [credentialsFor] at hd
      | basic =>
        rw [credentialsFor_eq_basic.mpr ⟨rfl, hu, hp⟩] at hd
        cases hd
  · rintro ⟨rfl, hnone⟩
    rcases hshape _ rfl with hmiss | ⟨cr, hcr⟩
    · exact ⟨_, hmiss⟩
    · cases cr with
      | cert => cases credentialsFor_eq_cert.mp hcr
      | basic un pw =>
        obtain ⟨-, hu, hp⟩ := credentialsFor_eq_basic.mp hcr
        exact (hnone ⟨un, pw, hu, hp⟩).elim

end Outcome

/-! ## The client keeps what resolved -/

namespace HttpService

/-- **Making a client never fails**, and the client keeps the credentials exactly when they
resolve. -/
theorem create_credentials (c : AgentConfig) (store : StateStore) (w : World) :
    ∃ h w', (create c store).run w = (.ok h, w') ∧
      h.credentials = ((resolveCredentials c).run w).1.toOption := by
  rcases hres : (resolveCredentials c).run w with ⟨r, w₁⟩
  -- a fault of resolving is caught, and the client is made without credentials
  have hcaught : (tryCatch (do pure (some (← resolveCredentials c))) fun _ => pure none :
      Agent (Option Credentials)).run w = (.ok r.toOption, w₁) := by
    cases r with
    | error e => exact run_tryCatch_error (run_bind_error hres _) _
    | ok cr => exact run_tryCatch_ok (by rw [run_bind_ok hres]; rfl) _
  obtain ⟨system, hsys⟩ := systemHostname_run w₁
  unfold create
  rw [run_bind_ok hcaught, run_bind_ok hsys]
  exact ⟨_, _, rfl, rfl⟩

end HttpService

end Remote

/-! ## The requests the server receives -/

/-- The values of a request's authorization headers, in order. -/
def Http.Request.authorization (q : Request) : List String :=
  (q.headers.filter (·.1 == "authorization")).map (·.2)

/-- The authorization that credentials call for: basic credentials give one header, `Basic`
and the base64 form of `user:password`; a certificate or no credentials give none. -/
def Remote.authorizationFor : Option Credentials → List String
  | some (.basic u p) => ["Basic " ++ base64 (u ++ ":" ++ p).toUTF8.toList]
  | _ => []

/-- From `w` to `w'` the server received only requests satisfying `P`. -/
def World.SentOnly (P : Request → Prop) (w w' : World) : Prop :=
  ∃ qs : List Request, w'.network.received.toList = w.network.received.toList ++ qs ∧
    ∀ q ∈ qs, P q

namespace World.SentOnly

variable {P : Request → Prop} {w₁ w₂ w₃ : World}

theorem refl (w : World) : w.SentOnly P w := ⟨[], by simp, by simp⟩

theorem trans (h₁ : w₁.SentOnly P w₂) (h₂ : w₂.SentOnly P w₃) : w₁.SentOnly P w₃ := by
  obtain ⟨qs₁, he₁, hq₁⟩ := h₁
  obtain ⟨qs₂, he₂, hq₂⟩ := h₂
  refine ⟨qs₁ ++ qs₂, by rw [he₂, he₁, List.append_assoc], fun q hq => ?_⟩
  rcases List.mem_append.mp hq with hq | hq
  · exact hq₁ q hq
  · exact hq₂ q hq

instance : Std.Refl (World.SentOnly P) := ⟨refl⟩

instance : Trans (World.SentOnly P) (World.SentOnly P) (World.SentOnly P) := ⟨trans⟩

/-- A step that leaves the network alone sends nothing. -/
theorem of_network_eq (h : w₂.network = w₁.network) : w₁.SentOnly P w₂ :=
  ⟨[], by rw [h, List.append_nil], by simp⟩

theorem of_hostOnly (h : w₁.HostOnly w₂) : w₁.SentOnly P w₂ := of_network_eq h.network_eq

end World.SentOnly

namespace Agent

variable {P : Request → Prop} {α : Type}

theorem sentOnly_of_hostOnly {act : Agent α} (h : Within World.HostOnly act) :
    Within (World.SentOnly P) act :=
  h.mono fun _ _ h => World.SentOnly.of_hostOnly h

theorem sentOnly_log (l : Host.Level) (m : String) : Within (World.SentOnly P) (log l m) :=
  sentOnly_of_hostOnly (hostOnly_log l m)

theorem Within.throw_bind {β : Type} {R : World → World → Prop} [Std.Refl R] (e : Fault)
    (f : α → Agent β) : Within R ((MonadExcept.throw e : Agent α) >>= f) := by
  intro w
  rw [run_bind_error (run_throw e w)]
  exact Std.Refl.refl w

/-- A span sends what its body sends: opening and closing it touches only the spans. -/
theorem sentOnly_inSpan (label : String) {act : Agent α} (h : Within (World.SentOnly P) act) :
    Within (World.SentOnly P) (inSpan label act) := by
  intro w
  rw [run_inSpan]
  exact h { w with spans := w.spans ++ [label] }

end Agent

namespace Remote.HttpService

variable (h : HttpService) {P : Request → Prop}

theorem lift_sentOnly {α : Type} (r : Except Fault α) : Within (World.SentOnly P) (lift r) := by
  cases r with
  | error e => exact Within.throw e
  | ok a => exact Within.pure a

/-- **Sending a request that satisfies `P` sends nothing else.** -/
theorem send_sentOnly {method path : String} {extra : List (String × String)} {body : Body}
    (hq : P (h.request method path extra body)) :
    Within (World.SentOnly P) (h.send method path extra body) := by
  intro w
  obtain ⟨j, hrun⟩ := h.send_run method path extra body w
  rw [hrun]
  rcases received_exchange w.network (h.request method path extra body) with ⟨he, hu⟩ | he
  · -- nothing can be reached: the request is never received
    exact World.SentOnly.of_network_eq (he.trans hu.symm)
  · exact ⟨[h.request method path extra body], by simp [he], by simpa using hq⟩

theorem machineId_sentOnly : Within (World.SentOnly P) h.machineId :=
  Within.bind (sentOnly_of_hostOnly (MachineIdentity.resolve_hostOnly h.store false)) fun _ =>
    Within.pure _

/-- Every call of the client sends only requests satisfying `P`. -/
structure SendsOnly (h : HttpService) (P : Request → Prop) : Prop where
  check : Within (World.SentOnly P) h.checkRegistration
  register : Within (World.SentOnly P) h.register
  unregister : Within (World.SentOnly P) h.unregister
  upload : ∀ a ct hint, Within (World.SentOnly P) (h.uploadArchive a ct hint)
  rules : Within (World.SentOnly P) h.fetchRules

/-- No header a call adds of its own is an authorization. -/
def OwnHeaders (extra : List (String × String)) : Prop := ∀ kv ∈ extra, kv.1 ≠ "authorization"

theorem ownHeaders_nil : OwnHeaders [] := fun _ h => absurd h List.not_mem_nil

theorem ownHeaders_upload (b : String) (hint : Option Time.Duration) :
    OwnHeaders ([("content-type", "multipart/form-data; boundary=" ++ b)] ++
      match hint with
      | some d => [("x-collection-duration", secondsText d)]
      | none => []) := by
  cases hint <;> simp [OwnHeaders]

variable {h}

/-- **The calls send only requests of the client's own making**: whatever holds of every request
the client builds with headers of its own that are no authorization holds of everything the
calls send. -/
theorem sendsOnly_of_requests
    (hP : ∀ method path extra body, OwnHeaders extra → P (h.request method path extra body)) :
    h.SendsOnly P where
  check := by
    unfold checkRegistration
    refine sentOnly_inSpan _ (Within.bind h.machineId_sentOnly fun id => ?_)
    split
    · refine Within.bind (send_sentOnly h (hP _ _ _ _ ownHeaders_nil)) fun r => ?_
      obtain ⟨status, body⟩ := r
      dsimp only
      split
      · exact Within.pure _
      · exact Within.bind (lift_sentOnly _) fun _ => lift_sentOnly _
    · refine Within.bind (send_sentOnly h (hP _ _ _ _ ownHeaders_nil)) fun r => ?_
      obtain ⟨status, body⟩ := r
      dsimp only
      exact Within.bind (lift_sentOnly _) fun _ => lift_sentOnly _
  register := by
    unfold register
    refine sentOnly_inSpan _ (Within.bind h.machineId_sentOnly fun id => ?_)
    refine Within.bind (send_sentOnly h (hP _ _ _ _ (by simp [OwnHeaders]))) fun r => ?_
    obtain ⟨status, body⟩ := r
    dsimp only
    exact Within.bind (lift_sentOnly _) fun _ => Within.pure _
  unregister := by
    unfold unregister
    refine sentOnly_inSpan _ (Within.bind h.machineId_sentOnly fun id => ?_)
    refine Within.bind (send_sentOnly h (hP _ _ _ _ ownHeaders_nil)) fun r => ?_
    obtain ⟨status, body⟩ := r
    dsimp only
    split
    · exact Within.pure _
    · exact Within.bind (sentOnly_log _ _) fun _ => Within.pure _
  upload a ct hint := by
    unfold uploadArchive
    refine sentOnly_inSpan _ ?_
    dsimp only
    -- a refused content type stops the call; otherwise the path, the boundary and one request
    split
    · exact Within.throw_bind _ _
    split
    on_goal 1 => refine Within.bind h.machineId_sentOnly fun _ => ?_
    -- both generations go on with the path, the boundary and the one request
    all_goals
      refine Within.bind (Within.pure _) fun path => ?_
      refine Within.bind (sentOnly_of_hostOnly boundary_hostOnly) fun b => ?_
      refine Within.bind (send_sentOnly h (hP _ _ _ _ (ownHeaders_upload b hint))) fun r => ?_
      obtain ⟨status, body⟩ := r
      exact lift_sentOnly _
  rules := by
    unfold fetchRules
    refine sentOnly_inSpan _ ?_
    refine Within.bind (send_sentOnly h (hP _ _ _ _ ownHeaders_nil)) fun r => ?_
    obtain ⟨status, body⟩ := r
    dsimp only
    exact Within.bind (lift_sentOnly _) fun _ =>
      Within.bind (lift_sentOnly _) fun _ => Within.pure _

/-- A request of the client's own making carries the authorization its credentials call for. -/
theorem request_authorization {method path : String} {extra : List (String × String)} {body : Body}
    (hx : OwnHeaders extra) :
    (h.request method path extra body).authorization = authorizationFor h.credentials := by
  have hown : (extra.filter (·.1 == "authorization")).map (·.2) = [] := by
    simpa [List.filter_eq_nil_iff] using fun a b hab => hx (a, b) hab
  simp only [Request.authorization, request, headersFor, List.filter_append, List.map_append, hown,
    List.append_nil]
  rcases hc : h.credentials with _ | _ | _ <;> simp [authorizationFor]

/-- **Every request the client sends carries the authorization of its credentials.** -/
theorem sendsOnly_authorized (h : HttpService) :
    h.SendsOnly (fun q => q.authorization = authorizationFor h.credentials) :=
  sendsOnly_of_requests fun _ _ _ _ hx => request_authorization hx

end Remote.HttpService

open Remote

/-- **Credentials and authorization.** Resolving the credentials gives the certificate exactly
under the certificate method, basic credentials `un`, `pw` exactly under the basic method with
`un` and `pw` given as the values in force (the variable when set, else the setting), and a
missing-credentials fault otherwise. A client made in the same world sends, in every call, only
requests that carry one `Basic` header for `un:pw` when resolving gave basic credentials, and no
authorization header otherwise. -/
theorem basic_authorization_follows_credentials (c : AgentConfig) (store : StateStore) (w : World) :
    (((resolveCredentials c).run w).1 = .ok .cert ↔ c.authMethod = .cert) ∧
    (∀ un pw, ((resolveCredentials c).run w).1 = .ok (.basic un pw) ↔
      c.authMethod = .basic ∧ Given (effective (w.var usernameVar) c.username) un ∧
        Given (effective (w.var passwordVar) c.password) pw) ∧
    ((∃ detail, ((resolveCredentials c).run w).1 = .error (.missingCredentials detail)) ↔
      c.authMethod = .basic ∧ ¬ ∃ un pw, Given (effective (w.var usernameVar) c.username) un ∧
        Given (effective (w.var passwordVar) c.password) pw) ∧
    ∃ h w', (HttpService.create c store).run w = (.ok h, w') ∧
      h.SendsOnly (fun q =>
        q.authorization = authorizationFor ((resolveCredentials c).run w).1.toOption) := by
  obtain ⟨w₁, hres, -⟩ := resolveCredentials_run c w
  obtain ⟨h, w', hcreate, hcred⟩ := HttpService.create_credentials c store w
  rw [hres]
  refine ⟨credentialsFor_eq_cert, fun _ _ => credentialsFor_eq_basic, credentialsFor_missing,
    h, w', hcreate, ?_⟩
  rw [← hres, ← hcred]
  exact HttpService.sendsOnly_authorized h

end HostAgent
