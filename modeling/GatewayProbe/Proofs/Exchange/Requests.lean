/-
The requests a session makes.

What a session asks may depend on what it was answered, but many parts of a run ask the same
whatever comes back: a request that fails becomes a record, and the next one is sent. The requests
of such parts are known beforehand, and those of a run are put together from them.

* `Session.asked` — the requests made, those included to which there is no connection;
* `Session.asked_bind` — part by part;
* `Session.seen_of_asked` — the gateway sees no others;
* `Session.Asks` — the requests are these, for every gateway and everything it may have seen;
* `Session.OnlyAsks` — all requests have a property, whatever is answered on the way;
* `Client.requestWithin?` — the request for a path, if it can be sent.
-/
import GatewayProbe.Exchange.Client
import GatewayProbe.Proofs.Exchange.Sessions

namespace GatewayProbe

namespace Session

variable {α β : Type}

/-- The requests that a session makes of a gateway, those included to which there is no connection,
in their order. -/
def asked (gateway : Gateway) : List Request → Session α → List Request
  | _, .done _ => []
  | seen, .ask request next =>
    let answer := gateway seen request
    request :: (next answer).asked gateway (if answer = .refused then seen else seen ++ [request])

variable {gateway : Gateway} {seen : List Request}

@[simp] theorem asked_pure (value : α) : (pure value : Session α).asked gateway seen = [] := rfl

/-- A session asks what its first part asks, and then what the next one does. -/
@[simp] theorem asked_bind (s : Session α) (f : α → Session β) :
    (s >>= f).asked gateway seen =
      s.asked gateway seen ++ (f (s.run gateway seen).1).asked gateway (s.run gateway seen).2 := by
  induction s generalizing seen with
  | done value => rfl
  | ask request next ih => exact congrArg (request :: ·) (ih _)

/-- The gateway sees what was asked, except where there was no connection. -/
theorem seen_of_asked (s : Session α) :
    ∃ sent, (s.run gateway seen).2 = seen ++ sent ∧ sent.Sublist (s.asked gateway seen) := by
  induction s generalizing seen with
  | done value => exact ⟨[], (List.append_nil _).symm, List.Sublist.refl _⟩
  | ask request next ih =>
    rw [run, asked]
    split
    · obtain ⟨sent, hrun, hsent⟩ := @ih (gateway seen request) seen
      exact ⟨sent, hrun, hsent.cons request⟩
    · obtain ⟨sent, hrun, hsent⟩ := @ih (gateway seen request) (seen ++ [request])
      refine ⟨request :: sent, ?_, hsent.cons_cons request⟩
      rw [hrun, List.append_assoc, List.singleton_append]

/-! ### Requests that are known beforehand -/

/-- A session makes these requests, whatever it is answered. -/
def Asks (requests : List Request) (s : Session α) : Prop :=
  ∀ (gateway : Gateway) (seen : List Request), s.asked gateway seen = requests

namespace Asks

variable {first rest : List Request} {s : Session α} {f : α → Session β}

theorem pure (value : α) : (Pure.pure value : Session α).Asks [] := fun _ _ => rfl

theorem bind (hs : s.Asks first) (hf : ∀ value, (f value).Asks rest) :
    (s >>= f).Asks (first ++ rest) := by
  intro gateway seen
  rw [asked_bind, hs, hf]

/-- What a session gives is turned into something else without a request. -/
theorem map {g : α → β} (hs : s.Asks first) : (do return g (← s) : Session β).Asks first := by
  have h := hs.bind fun value => pure (g value)
  rwa [List.append_nil] at h

theorem mapM {requests : α → List Request} (h : ∀ a, (f a).Asks (requests a)) (as : List α) :
    (as.mapM f).Asks (as.flatMap requests) := by
  induction as with
  | nil =>
    rw [List.mapM_nil]
    exact pure []
  | cons a as ih =>
    rw [List.mapM_cons, List.flatMap_cons]
    exact (h a).bind fun b => ih.map

theorem foldlM {requests : α → List Request} {g : β → α → Session β}
    (h : ∀ acc a, (g acc a).Asks (requests a)) (as : List α) (acc : β) :
    (as.foldlM g acc).Asks (as.flatMap requests) := by
  induction as generalizing acc with
  | nil => exact pure acc
  | cons a as ih =>
    rw [List.foldlM_cons, List.flatMap_cons]
    exact (h acc a).bind ih

end Asks

/-! ### A property of all requests -/

/-- Every request that a session can come to make has a property, whatever it is answered. -/
inductive OnlyAsks (P : Request → Prop) : Session α → Prop
  | done (value : α) : OnlyAsks P (.done value)
  | ask {request : Request} {next : Answer → Session α} (first : P request)
      (rest : ∀ answer, OnlyAsks P (next answer)) : OnlyAsks P (.ask request next)

namespace OnlyAsks

variable {P : Request → Prop} {s : Session α} {f : α → Session β}

theorem pure (value : α) : (Pure.pure value : Session α).OnlyAsks P := .done value

theorem bind (hs : s.OnlyAsks P) (hf : ∀ value, (f value).OnlyAsks P) :
    (s >>= f).OnlyAsks P := by
  induction hs with
  | done value => exact hf value
  | ask first _ ih => exact .ask first ih

/-- A part that may be left out. -/
theorem skippable {skip : Bool} {value : α} (hs : s.OnlyAsks P) :
    (if skip then Pure.pure value else s).OnlyAsks P := by
  split
  · exact pure value
  · exact hs

theorem mapM_mem {as : List α} (h : ∀ a ∈ as, (f a).OnlyAsks P) : (as.mapM f).OnlyAsks P := by
  induction as with
  | nil =>
    rw [List.mapM_nil]
    exact pure []
  | cons a as ih =>
    obtain ⟨ha, has⟩ := List.forall_mem_cons.mp h
    rw [List.mapM_cons]
    exact ha.bind fun b => (ih has).bind fun bs => pure (b :: bs)

theorem mapM (h : ∀ a, (f a).OnlyAsks P) (as : List α) : (as.mapM f).OnlyAsks P :=
  mapM_mem fun a _ => h a

theorem foldlM {g : β → α → Session β} (h : ∀ acc a, (g acc a).OnlyAsks P) (as : List α)
    (acc : β) : (as.foldlM g acc).OnlyAsks P := by
  induction as generalizing acc with
  | nil => exact pure acc
  | cons a as ih =>
    rw [List.foldlM_cons]
    exact (h acc a).bind ih

/-- What is asked of a gateway has the property. -/
theorem of_mem_asked (hs : s.OnlyAsks P) : ∀ q ∈ s.asked gateway seen, P q := by
  induction hs generalizing seen with
  | done value => exact fun q hq => absurd hq List.not_mem_nil
  | ask first _ ih => exact List.forall_mem_cons.mpr ⟨first, ih _⟩

end OnlyAsks
end Session

/-! ### The requests of a client -/

namespace Client

variable (c : Client)

/-- The request that may take `budget` seconds, if it can be sent. -/
def requestWithin? (budget : Nat) (method path : String) (headers : List (String × String))
    (body : String) : Option Request :=
  if headers.all fun header => isSendable header.2 then
    (target? (c.access.address ++ path)).map fun target => ⟨method, target, headers, body, budget⟩
  else none

variable {c} in
theorem method_of_requestWithin? {budget : Nat} {method path body : String}
    {headers : List (String × String)} {q : Request}
    (h : c.requestWithin? budget method path headers body = some q) : q.method = method := by
  rw [requestWithin?] at h
  split at h
  · obtain ⟨target, -, rfl⟩ := Option.map_eq_some_iff.mp h
    rfl
  · cases h

theorem sendWithin_asks (budget : Nat) (method path : String) (headers : List (String × String))
    (body : String) :
    (c.sendWithin budget method path headers body).Asks
      (c.requestWithin? budget method path headers body).toList := by
  intro gateway seen
  unfold sendWithin
  rw [requestWithin?]
  cases target? (c.access.address ++ path) with
  | none =>
    rw [Option.map_none, ite_self]
    rfl
  | some target =>
    dsimp only
    split <;> rfl

/-- The request for a page. -/
def getRequest? (path : String) : Option Request := c.requestWithin? c.budget "GET" path [] ""

/-- The request that posts a value. -/
def postRequest? (path : String) (body : Json) : Option Request :=
  c.requestWithin? c.budget "POST" path [("content-type", "application/json")] body.compact

theorem get_asks (path : String) : (c.get path).Asks (c.getRequest? path).toList :=
  (c.sendWithin_asks c.budget "GET" path [] "").map

theorem postValue_asks (path : String) (body : Json) :
    (c.postValue path body).Asks (c.postRequest? path body).toList :=
  (c.sendWithin_asks c.budget "POST" path _ body.compact).map

theorem getPage_asks (path : String) : (c.getPage path).Asks (c.getRequest? path).toList := by
  intro gateway seen
  rw [getPage, Session.asked_bind, c.get_asks path gateway seen]
  split <;> rw [Session.asked_pure, List.append_nil]

theorem requireHealth_asks : c.requireHealth.Asks
    (c.requestWithin? c.access.healthTimeout "GET" Route.health [] "").toList := by
  intro gateway seen
  rw [requireHealth, Session.asked_bind, c.sendWithin_asks _ _ _ _ _ gateway seen]
  split <;> rw [Session.asked_pure, List.append_nil]

end Client
end GatewayProbe
