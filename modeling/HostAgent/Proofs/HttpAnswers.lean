import HostAgent.Proofs.StepFrames
import HostAgent.Remote.Http

/-!
# `Proofs.HttpAnswers` — what the client over HTTP makes of the server's answers

Every call of `Remote.HttpService` sends one request (`HttpService.send_run`): the network's
reply becomes the call's status and body, or a timeout, or a transport fault. Every call but the
rules first resolves the machine identifier, and a failure there is the call's answer before
anything is sent (`HttpService.afterIdentity`); since resolving is log-blind and a step of the
host alone, resolving inside the call's span is resolving from the world the call starts in
(`HttpService.machineId_run`).

The main statement, `HttpService.answers_interpreted`, reads each call's answer off the server's
status `s` and body `b`:

| call | `404` | `2xx` | other |
|---|---|---|---|
| legacy check | `false` | the body as a `LegacySystem` | status fault |
| modern check | status fault | the body as a `HostList` | status fault |
| register | status fault | done | status fault |
| unregister | `false` | `true` | `false` |
| rules | status fault | the body as a JSON document | status fault |

so a check says registered only after a `2xx` answer, and a body that does not read is a
serialization fault.
-/

namespace HostAgent

open HostAgent.Http HostAgent.Remote HostAgent.Store HostAgent.Json HostAgent.Collection
  HostAgent.Config Agent

namespace Http

/-- What sending makes of a reply: an answer's status and body, or the fault of no answer. -/
def Reply.result : Reply → Except Fault (Nat × String)
  | .answer r => .ok (r.status, r.body)
  | .timeout => .error .timeout
  | .failure m => .error (.transport m)

/-- The reply a server gives to its next request; an unreachable network gives none. -/
def Network.nextReply : Network → Option Reply
  | .unreachable => none
  | .server replies fallback _ => some (replies.headD fallback)

/-- A server replies to any request with its next reply. -/
theorem Network.exchange_fst {n : Network} {x : Reply} (h : n.nextReply = some x) (r : Request) :
    (n.exchange r).1 = x := by
  cases n with
  | unreachable => cases h
  | server replies fallback received =>
    cases replies <;> simp_all [nextReply, exchange]

end Http

namespace Remote.HttpService

variable (h : HttpService)

/-- The request a call sends. -/
def request (method path : String) (extra : List (String × String)) (body : Body) : Request :=
  { method, url := h.url path, headers := h.headersFor extra, body }

/-- **Sending one request**: the reply is the network's, the network moves on, and nothing else
changes but the journal. -/
theorem send_run (method path : String) (extra : List (String × String)) (body : Body)
    (w : World) : ∃ j, (h.send method path extra body).run w =
      ((w.network.exchange (h.request method path extra body)).1.result,
        { w with network := (w.network.exchange (h.request method path extra body)).2,
                 journal := j }) := by
  unfold send
  rw [run_bind_ok (run_get w)]
  rcases hx : w.network.exchange (h.request method path extra body) with ⟨reply, n⟩
  simp only [request] at hx
  simp only [hx]
  rw [run_bind_ok (run_set _ w)]
  cases reply with
  | answer r =>
    obtain ⟨w', hw', hlo⟩ := run_debug ("HTTP status " ++ toString r.status) { w with network := n }
    rw [run_bind_ok hw']
    exact ⟨w'.journal, by rw [hlo]; rfl⟩
  | timeout => exact ⟨w.journal, rfl⟩
  | failure m => exact ⟨w.journal, rfl⟩

@[simp] theorem run_lift {α : Type} (r : Except Fault α) (w : World) : (lift r).run w = (r, w) := by
  cases r <;> rfl

/-- An answer sent on to what follows: what follows gets the answer's status and body. -/
theorem send_answer_fst {α : Type} (method path : String) (extra : List (String × String))
    (body : Body) (f : Nat × String → Agent α) (w : World) {s : Nat} {b : String}
    (hnext : w.network.nextReply = some (.answer ⟨s, b⟩)) {R : Except Fault α}
    (hf : ∀ w', ((f (s, b)).run w').1 = R) : ((h.send method path extra body >>= f).run w).1 = R := by
  obtain ⟨j, hsend⟩ := h.send_run method path extra body w
  rw [Network.exchange_fst hnext] at hsend
  rw [run_bind_ok hsend]
  exact hf _

/-- `r`, unless resolving the machine identifier from `w` fails first. -/
def afterIdentity {α : Type} (w : World) (r : Except Fault α) : Except Fault α :=
  match ((MachineIdentity.resolve h.store false).run w).1 with
  | .error e => .error e
  | .ok _ => r

/-- **The identifier a call resolves inside its span** is the one resolved from the world the
call starts in, and the network is left as it was. -/
theorem machineId_run (w : World) (sp : List String) :
    ∃ w', h.machineId.run { w with spans := sp } =
      (((MachineIdentity.resolve h.store false).run w).1.map (·.text), w') ∧
      w'.network = w.network := by
  have hfst := (MachineIdentity.resolve_logBlind h.store false).run_fst w w.journal sp
  have hnet := (MachineIdentity.resolve_hostOnly h.store false { w with spans := sp }).network_eq
  unfold machineId
  rcases hr : (MachineIdentity.resolve h.store false).run { w with spans := sp } with ⟨_ | id, w'⟩
  · refine ⟨w', by rw [run_bind_error hr]; simp only [← hfst, hr]; rfl, ?_⟩
    rw [hr] at hnet
    exact hnet
  · refine ⟨w', by rw [run_bind_ok hr]; simp only [← hfst, hr]; rfl, ?_⟩
    rw [hr] at hnet
    exact hnet

/-- **A call that resolves the identifier, then asks the server**: its answer is the identifier's
fault, or what the rest makes of the server's next reply. -/
theorem identified_fst {α : Type} (label : String) (rest : String → Agent α) (w : World)
    {x : Reply} (hnext : w.network.nextReply = some x) {R : Except Fault α}
    (hrest : ∀ id w', w'.network.nextReply = some x → ((rest id).run w').1 = R) :
    ((inSpan label (h.machineId >>= rest)).run w).1 = h.afterIdentity w R := by
  rw [run_inSpan]
  obtain ⟨w₁, hid, hnet⟩ := h.machineId_run w (w.spans ++ [label])
  unfold afterIdentity
  rcases hres : ((MachineIdentity.resolve h.store false).run w).1 with e | id
  · rw [hres] at hid
    rw [run_bind_error hid]
  · rw [hres] at hid
    rw [run_bind_ok hid]
    exact hrest _ _ (hnet ▸ hnext)

/-! ## Each call -/

section Answer

variable {h} {w : World} {s : Nat} {b : String}

theorem checkRegistration_legacy (hg : h.generation = .legacy)
    (hnext : w.network.nextReply = some (.answer ⟨s, b⟩)) :
    (h.checkRegistration.run w).1 = h.afterIdentity w
      (if s = 404 then .ok false
       else if 200 ≤ s ∧ s < 300 then legacyRegistered b else .error (.status s b)) := by
  refine h.identified_fst _ _ w hnext fun id w' hw' => ?_
  rw [hg]
  refine h.send_answer_fst _ _ _ _ _ w' hw' fun _ => ?_
  -- `404`, then `2xx`, then any other status
  by_cases h404 : s = 404
  · simp [h404]
  · by_cases h2xx : 200 ≤ s ∧ s < 300
    · simp [h404, h2xx, expectSuccess, run_bind]
    · simp [h404, h2xx, expectSuccess, run_bind]

theorem checkRegistration_modern (hg : h.generation = .modern)
    (hnext : w.network.nextReply = some (.answer ⟨s, b⟩)) :
    (h.checkRegistration.run w).1 = h.afterIdentity w
      (if 200 ≤ s ∧ s < 300 then modernRegistered b else .error (.status s b)) := by
  refine h.identified_fst _ _ w hnext fun id w' hw' => ?_
  rw [hg]
  refine h.send_answer_fst _ _ _ _ _ w' hw' fun _ => ?_
  by_cases h2xx : 200 ≤ s ∧ s < 300
  · simp [h2xx, expectSuccess, run_bind]
  · simp [h2xx, expectSuccess, run_bind]

theorem register_answer (hnext : w.network.nextReply = some (.answer ⟨s, b⟩)) :
    (h.register.run w).1 = h.afterIdentity w
      (if 200 ≤ s ∧ s < 300 then .ok () else .error (.status s b)) := by
  refine h.identified_fst _ _ w hnext fun id w' hw' => ?_
  refine h.send_answer_fst _ _ _ _ _ w' hw' fun _ => ?_
  by_cases h2xx : 200 ≤ s ∧ s < 300
  · simp [h2xx, expectSuccess, Except.map]
  · simp [h2xx, expectSuccess, Except.map]

theorem unregister_answer (hnext : w.network.nextReply = some (.answer ⟨s, b⟩)) :
    (h.unregister.run w).1 = h.afterIdentity w (.ok (decide (200 ≤ s ∧ s < 300))) := by
  refine h.identified_fst _ _ w hnext fun id w' hw' => ?_
  refine h.send_answer_fst _ _ _ _ _ w' hw' fun _ => ?_
  by_cases h2xx : 200 ≤ s ∧ s < 300
  · simp [h2xx]
  · -- a refusal is reported, then answered `false`
    simp [h2xx, debug, run_log, Except.map]

theorem fetchRules_answer (hnext : w.network.nextReply = some (.answer ⟨s, b⟩)) :
    (h.fetchRules.run w).1 =
      if 200 ≤ s ∧ s < 300 then (document b).map CollectionRules.ofDocument
      else .error (.status s b) := by
  unfold fetchRules
  simp only [run_inSpan]
  refine h.send_answer_fst _ _ _ _ _ { w with spans := w.spans ++ ["fetch_collection_rules"] }
    hnext fun _ => ?_
  by_cases h2xx : 200 ≤ s ∧ s < 300
  · rcases hdoc : document b with e | doc <;> simp [h2xx, hdoc, expectSuccess, run_bind, Except.map]
  · simp [h2xx, expectSuccess, run_bind]

end Answer

/-! ## The table -/

/-- The answer of a status check to the status `s` and body `b`. -/
def checkAnswer (g : Generation) (s : Nat) (b : String) : Except Fault Bool :=
  match g with
  | .legacy =>
    if s = 404 then .ok false
    else if 200 ≤ s ∧ s < 300 then legacyRegistered b else .error (.status s b)
  | .modern => if 200 ≤ s ∧ s < 300 then modernRegistered b else .error (.status s b)

example : checkAnswer .legacy 404 "" = .ok false := rfl
example : checkAnswer .modern 404 "" = .error (.status 404 "") := rfl

theorem structFault_serialization (kind : String) (e : StructError) :
    ∃ m, structFault kind e = .serialization m := by
  cases e <;> exact ⟨_, rfl⟩

theorem legacyRegistered_error {b : String} {f : Fault} (hf : legacyRegistered b = .error f) :
    ∃ m, f = .serialization m := by
  unfold legacyRegistered at hf
  split at hf <;> try cases hf
  · exact ⟨_, rfl⟩
  · exact structFault_serialization _ _

theorem modernRegistered_error {b : String} {f : Fault} (hf : modernRegistered b = .error f) :
    ∃ m, f = .serialization m := by
  unfold modernRegistered at hf
  split at hf <;> try cases hf
  · exact ⟨_, rfl⟩
  · exact structFault_serialization _ _

/-- A check says registered only after a `2xx` answer. -/
theorem checkAnswer_true {g : Generation} {s : Nat} {b : String}
    (hok : checkAnswer g s b = .ok true) : 200 ≤ s ∧ s < 300 := by
  by_cases h2xx : 200 ≤ s ∧ s < 300
  · exact h2xx
  · cases g <;> simp [checkAnswer, h2xx] at hok
    split at hok <;> cases hok

/-- A check fails with the status of an answer outside `2xx`, or on the body of one inside. -/
theorem checkAnswer_error {g : Generation} {s : Nat} {b : String} {f : Fault}
    (hf : checkAnswer g s b = .error f) :
    (¬ (200 ≤ s ∧ s < 300) ∧ f = .status s b) ∨ (200 ≤ s ∧ s < 300 ∧ ∃ m, f = .serialization m) := by
  by_cases h2xx : 200 ≤ s ∧ s < 300
  · have h404 : s ≠ 404 := by omega
    cases g
    · simp only [checkAnswer, h404, h2xx, if_false, if_true, and_self] at hf
      exact .inr ⟨h2xx.1, h2xx.2, legacyRegistered_error hf⟩
    · simp only [checkAnswer, h2xx, if_true, and_self] at hf
      exact .inr ⟨h2xx.1, h2xx.2, modernRegistered_error hf⟩
  · cases g <;> simp [checkAnswer, h2xx] at hf
    · split at hf
      · cases hf
      · cases hf
        exact .inl ⟨h2xx, rfl⟩
    · cases hf
      exact .inl ⟨h2xx, rfl⟩

theorem afterIdentity_ok {α : Type} {w : World} {r : Except Fault α} {a : α}
    (hok : h.afterIdentity w r = .ok a) : r = .ok a := by
  unfold afterIdentity at hok
  split at hok
  · cases hok
  · exact hok

theorem checkRegistration_answer {w : World} {s : Nat} {b : String}
    (hnext : w.network.nextReply = some (.answer ⟨s, b⟩)) :
    (h.checkRegistration.run w).1 = h.afterIdentity w (checkAnswer h.generation s b) := by
  cases hg : h.generation with
  | legacy => exact checkRegistration_legacy hg hnext
  | modern => exact checkRegistration_modern hg hnext

/-- **Each call's reading of the server's answer**: the status and body of the server's next
answer decide every call by the table, up to a failure to resolve the machine identifier; so a
check says registered only after a `2xx` answer, and fails only with the status of an answer
outside `2xx` or with a body that does not read. -/
theorem answers_interpreted (w : World) (s : Nat) (b : String)
    (hnext : w.network.nextReply = some (.answer ⟨s, b⟩)) :
    (h.checkRegistration.run w).1 = h.afterIdentity w (checkAnswer h.generation s b) ∧
    (h.register.run w).1 = h.afterIdentity w
      (if 200 ≤ s ∧ s < 300 then .ok () else .error (.status s b)) ∧
    (h.unregister.run w).1 = h.afterIdentity w (.ok (decide (200 ≤ s ∧ s < 300))) ∧
    (h.fetchRules.run w).1 =
      (if 200 ≤ s ∧ s < 300 then (document b).map CollectionRules.ofDocument
       else .error (.status s b)) ∧
    ((h.checkRegistration.run w).1 = .ok true → 200 ≤ s ∧ s < 300) ∧
    (∀ f, checkAnswer h.generation s b = .error f →
      (¬ (200 ≤ s ∧ s < 300) ∧ f = .status s b) ∨
      (200 ≤ s ∧ s < 300 ∧ ∃ m, f = .serialization m)) := by
  have hcheck := h.checkRegistration_answer hnext
  refine ⟨hcheck, register_answer hnext, unregister_answer hnext, fetchRules_answer hnext,
    fun hok => ?_, fun _ hf => checkAnswer_error hf⟩
  rw [hcheck] at hok
  exact checkAnswer_true (h.afterIdentity_ok hok)

/-- The legacy check of a host the server does not know. -/
theorem answers_interpreted_not_found :
    let h : HttpService := { (default : HttpService) with generation := .legacy }
    let w : World := { network := .server [] (.answer ⟨404, ""⟩) #[] }
    w.network.nextReply = some (.answer ⟨404, ""⟩) ∧
    (h.checkRegistration.run w).1 = h.afterIdentity w (.ok false) :=
  ⟨rfl, (answers_interpreted _ _ 404 "" rfl).1⟩

end Remote.HttpService

end HostAgent
