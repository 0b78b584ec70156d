/-
What a session exchanges with a gateway.

A run knows a gateway by the answers to its own requests alone. The requests of a session and their
answers, in their order, are its exchanges, and what a session makes of them is found part by part:

* `Session.exchanges` — the requests made, each with its answer;
* `Session.Logs` — a relation between exchanges and value, for every gateway and everything it may
  have seen; `Session.Logs.bind` and `Session.Logs.mapM` put parts together;
* `Session.OnlyAsks.exchanges_congr` — gateways that answer the requests made alike;
* `Session.exchanges_mapM_steady` — gateways that answer each request by itself;
* `Client.sendWithin_logs` — a request and its answer;
* `Client.IsMessageRequest`, `Client.postMessage_logs` — requests for messages.
-/
import Mathlib.Data.List.Forall2
import GatewayProbe.Proofs.Exchange.Requests
import GatewayProbe.Proofs.Exchange.Steady

namespace GatewayProbe

/-- A request with its answer. -/
abbrev Exchange := Request × Answer

namespace Session

variable {α β : Type}

/-- The requests that a session makes of a gateway, each with its answer, in their order. -/
def exchanges (gateway : Gateway) : List Request → Session α → List Exchange
  | _, .done _ => []
  | seen, .ask request next =>
    let answer := gateway seen request
    (request, answer) ::
      (next answer).exchanges gateway (if answer = .refused then seen else seen ++ [request])

variable {gateway : Gateway} {seen : List Request}

@[simp] theorem exchanges_pure (value : α) :
    (pure value : Session α).exchanges gateway seen = [] := rfl

@[simp] theorem exchanges_bind (s : Session α) (f : α → Session β) :
    (s >>= f).exchanges gateway seen = s.exchanges gateway seen ++
      (f (s.run gateway seen).1).exchanges gateway (s.run gateway seen).2 := by
  induction s generalizing seen with
  | done value => rfl
  | ask request next ih => exact congrArg ((request, gateway seen request) :: ·) (ih _)

theorem map_fst_exchanges (s : Session α) :
    (s.exchanges gateway seen).map Prod.fst = s.asked gateway seen := by
  induction s generalizing seen with
  | done value => rfl
  | ask request next ih => exact congrArg (request :: ·) (ih _)

/-! ### Exchanges and values -/

/-- The exchanges of a session are related to its value, whatever the gateway. -/
def Logs (R : List Exchange → α → Prop) (s : Session α) : Prop :=
  ∀ (gateway : Gateway) (seen : List Request),
    R (s.exchanges gateway seen) (s.run gateway seen).1

namespace Logs

variable {R : List Exchange → α → Prop} {S : List Exchange → β → Prop} {s : Session α}
  {f : α → Session β}

theorem pure {value : α} (h : R [] value) : (Pure.pure value : Session α).Logs R := fun _ _ => h

theorem bind (hs : s.Logs R)
    (hf : ∀ log value, R log value → (f value).Logs fun more result => S (log ++ more) result) :
    (s >>= f).Logs S := by
  intro gateway seen
  rw [exchanges_bind, run_bind]
  exact hf _ _ (hs gateway seen) _ _

theorem mono {R' : List Exchange → α → Prop} (hs : s.Logs R)
    (h : ∀ log value, R log value → R' log value) : s.Logs R' :=
  fun gateway seen => h _ _ (hs gateway seen)

/-- The exchanges for a list are those for its items, one after the other. -/
theorem mapM (h : ∀ a, (f a).Logs S) (as : List α) :
    (as.mapM f).Logs fun log bs => ∃ logs, log = logs.flatten ∧ List.Forall₂ S logs bs := by
  induction as with
  | nil =>
    rw [List.mapM_nil]
    exact pure ⟨[], rfl, .nil⟩
  | cons a as ih =>
    rw [List.mapM_cons]
    refine (h a).bind fun log b hb => ?_
    refine ih.bind ?_
    rintro _ bs ⟨logs, rfl, hbs⟩
    exact pure ⟨log :: logs, List.append_nil _ ▸ rfl, .cons hb hbs⟩

end Logs

/-! ### Gateways that answer alike -/

namespace OnlyAsks

variable {P : Request → Prop} {s : Session α} {gateway' : Gateway}

/-- Only the answers to requests that are made count. -/
theorem exchanges_congr (hs : s.OnlyAsks P)
    (alike : ∀ seen q, P q → gateway seen q = gateway' seen q) (seen : List Request) :
    s.exchanges gateway seen = s.exchanges gateway' seen := by
  induction hs generalizing seen with
  | done value => rfl
  | ask first _ ih =>
    rw [exchanges, exchanges, alike seen _ first]
    exact congrArg _ (ih _ _)

end OnlyAsks

/-! ### Gateways that answer each request by itself -/

section Steady

variable (answer : Request → Answer)

theorem exchanges_steady (s : Session α) (seen seen' : List Request) :
    s.exchanges (.steady answer) seen = s.exchanges (.steady answer) seen' := by
  induction s generalizing seen seen' with
  | done value => rfl
  | ask request next ih => exact congrArg ((request, answer request) :: ·) (ih _ _ _)

theorem exchanges_mapM_steady (f : α → Session β) (as : List α) (seen : List Request) :
    (as.mapM f).exchanges (.steady answer) seen =
      as.flatMap fun a => (f a).exchanges (.steady answer) [] := by
  induction as generalizing seen with
  | nil =>
    rw [List.mapM_nil]
    rfl
  | cons a as ih =>
    rw [List.mapM_cons, exchanges_bind, exchanges_bind, exchanges_pure, List.append_nil, ih,
      List.flatMap_cons, exchanges_steady answer (f a) seen []]

end Steady
end Session

/-! ### The requests of a client -/

namespace Client

variable (c : Client)

variable {c} in
theorem headers_of_requestWithin? {budget : Nat} {method path body : String}
    {headers : List (String × String)} {q : Request}
    (h : c.requestWithin? budget method path headers body = some q) : q.headers = headers := by
  rw [requestWithin?] at h
  split at h
  · obtain ⟨target, -, rfl⟩ := Option.map_eq_some_iff.mp h
    rfl
  · cases h

/-- A request is sent and answered, or it cannot be sent. -/
theorem sendWithin_logs (budget : Nat) (method path : String) (headers : List (String × String))
    (body : String) :
    (c.sendWithin budget method path headers body).Logs fun log answer =>
      (∃ q, c.requestWithin? budget method path headers body = some q ∧ log = [(q, answer)]) ∨
        log = [] ∧ answer = .refused := by
  unfold sendWithin
  rw [requestWithin?]
  cases target? (c.access.address ++ path) with
  | none => exact .pure (.inr ⟨rfl, rfl⟩)
  | some target =>
    dsimp only
    split
    · exact fun gateway seen => .inl ⟨_, rfl, rfl⟩
    · exact .pure (.inr ⟨rfl, rfl⟩)

theorem sendWithin_only (budget : Nat) (method path : String) (headers : List (String × String))
    (body : String) :
    (c.sendWithin budget method path headers body).OnlyAsks fun q => q.method = method := by
  unfold sendWithin
  cases target? (c.access.address ++ path) with
  | none => exact .pure _
  | some target =>
    dsimp only
    split
    · exact .ask rfl fun _ => .done _
    · exact .pure _

/-- The request that asks for a message. -/
def messageRequest? (body : Json) : Option Request :=
  c.requestWithin? c.budget "POST" Route.messages [("x-api-key", c.access.apiKey),
    ("anthropic-version", c.access.anthropicVersion), ("content-type", "application/json")]
    body.compact

/-- The request asks for a message. -/
def IsMessageRequest (q : Request) : Prop := ∃ body, c.messageRequest? body = some q

/-- A request with other headers asks for no message. -/
theorem not_isMessageRequest {path : String} {body : Json} {q : Request}
    (h : c.postRequest? path body = some q) : ¬c.IsMessageRequest q := by
  rintro ⟨message, hmessage⟩
  have hheaders := (headers_of_requestWithin? h).symm.trans (headers_of_requestWithin? hmessage)
  exact absurd (congrArg List.length hheaders) (by simp)

theorem postMessage_logs (body : Json) :
    (c.postMessage body).Logs fun log outcome =>
      (∃ q answer, c.IsMessageRequest q ∧ log = [(q, answer)] ∧ outcome = c.received answer) ∨
        log = [] ∧ outcome = c.received .refused := by
  refine (c.sendWithin_logs _ _ _ _ _).bind ?_
  rintro log answer (⟨q, hq, rfl⟩ | ⟨rfl, rfl⟩)
  · exact .pure (.inl ⟨q, answer, ⟨body, hq⟩, rfl, rfl⟩)
  · exact .pure (.inr ⟨rfl, rfl⟩)

theorem postValue_logs (path : String) (body : Json) :
    (c.postValue path body).Logs fun log _ => ∀ e ∈ log, ¬c.IsMessageRequest e.1 := by
  intro gateway seen e he
  have hasked : e.1 ∈ (c.postValue path body).asked gateway seen := by
    rw [← Session.map_fst_exchanges]
    exact List.mem_map_of_mem he
  rw [c.postValue_asks path body gateway seen] at hasked
  exact c.not_isMessageRequest (Option.mem_toList.mp hasked)

theorem postMessage_only (body : Json) :
    (c.postMessage body).OnlyAsks fun q => q.method = "POST" :=
  (c.sendWithin_only _ _ _ _ _).bind fun _ => .pure _

theorem postValue_only (path : String) (body : Json) :
    (c.postValue path body).OnlyAsks fun q => q.method = "POST" :=
  (c.sendWithin_only _ _ _ _ _).bind fun _ => .pure _

end Client
end GatewayProbe
