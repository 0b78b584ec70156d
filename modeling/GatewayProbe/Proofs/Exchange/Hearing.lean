/-
What a run hears from a gateway.

Of all that a gateway sends, a run puts little into its records: a piece of the body of a failed
reply, two fields of a message, the keys of a page, and the names of what is listed. These are the
texts that a reply *says*. What a session makes of them is found part by part:

* `PageSays`, `Reply.Says` — the texts of a page and of a reply that a run may quote;
* `Session.Hears` — a condition on the value of a session that holds where only texts of a kind are
  said to it; `Session.Hears.bind`, `Session.Hears.mapM` put parts together;
* `Outcome.Told` — such a condition on an outcome: an error quotes texts of that kind alone;
* `Client.post_hears`, `Client.getPage_hears`, … — what a client hears.
-/
import GatewayProbe.Inventory.Survey
import GatewayProbe.Proofs.Exchange.Exchanges
import GatewayProbe.Proofs.Text.Quoting
import GatewayProbe.Run.Basic
import GatewayProbe.Run.Fetch

namespace GatewayProbe

/-! ### Texts that are said -/

/-- The texts of a page that a run may quote. -/
inductive PageSays (body : String) : String → Prop
  | key {page : Json} {key : String} (read : Json.parse? body = some page)
      (held : key ∈ page.keys) : PageSays body key
  | type {page : Json} {s : String} (read : Json.parse? body = some page)
      (held : page.get? "type" = some (.text s)) : PageSays body s
  | role {page : Json} {s : String} (read : Json.parse? body = some page)
      (held : page.get? "role" = some (.text s)) : PageSays body s
  | endpointName {endpoints : List Endpoint} {e : Endpoint}
      (read : readEndpoints body = .ok endpoints) (held : e ∈ endpoints) : PageSays body e.name
  | endpointType {endpoints : List Endpoint} {e : Endpoint}
      (read : readEndpoints body = .ok endpoints) (held : e ∈ endpoints) : PageSays body e.type
  | model {source : ListSource} {models : List Model} {m : Model}
      (read : parseModels source body = .ok models) (held : m ∈ models) : PageSays body m.id

/-- The texts of a reply that a run may quote. Of a failed reply this is also the start of its
body. -/
inductive Reply.Says (r : Reply) : String → Prop
  | page {s : String} (h : PageSays r.received s) : Says r s
  | excerpt {n : Nat} (cut : n = 100 ∨ n = 200) (failed : r.head.succeeded = false) :
      Says r (Text.excerpt n r.received)

/-- All texts that the answer says are of a kind. -/
def Answer.SaysOnly (T : String → Prop) (a : Answer) : Prop :=
  ∀ r, a = .reply r → ∀ s, r.Says s → T s

namespace Session

variable {α β : Type}

/-- The texts that are said to a session. -/
def heard (s : Session α) (gateway : Gateway) (seen : List Request) (text : String) : Prop :=
  ∃ e ∈ s.exchanges gateway seen, ∃ r, e.2 = .reply r ∧ r.Says text

/-- Every answer of an exchange is the gateway's. -/
theorem answer_of_mem_exchanges {s : Session α} {gateway : Gateway} {seen : List Request}
    {e : Exchange} (h : e ∈ s.exchanges gateway seen) : ∃ asked, e.2 = gateway asked e.1 := by
  induction s generalizing seen with
  | done value => cases h
  | ask request next ih =>
    rcases List.mem_cons.mp h with rfl | h
    · exact ⟨seen, rfl⟩
    · exact ih _ h

/-- A condition on the value of a session, where only texts of a kind are said to it. -/
structure Hears (T : String → Prop) (P : α → Prop) (s : Session α) : Prop where
  given : ∀ (gateway : Gateway) (seen : List Request),
    (∀ e ∈ s.exchanges gateway seen, e.2.SaysOnly T) → P (s.run gateway seen).1

namespace Hears

variable {T : String → Prop} {P : α → Prop} {Q : β → Prop} {s : Session α} {f : α → Session β}

/-- What a session gives, given what it hears. -/
theorem of_heard (h : s.Hears T P) {gateway : Gateway} {seen : List Request}
    (hT : ∀ text, s.heard gateway seen text → T text) : P (s.run gateway seen).1 :=
  h.given gateway seen fun e he r hr text hs => hT text ⟨e, he, r, hr, hs⟩

theorem pure {value : α} (h : P value) : (Pure.pure value : Session α).Hears T P :=
  ⟨fun _ _ _ => h⟩

theorem mono {R : α → Prop} (hs : s.Hears T P) (h : ∀ value, P value → R value) : s.Hears T R :=
  ⟨fun gateway seen hall => h _ (hs.given gateway seen hall)⟩

theorem bind (hs : s.Hears T P) (hf : ∀ value, P value → (f value).Hears T Q) :
    (s >>= f).Hears T Q := by
  refine ⟨fun gateway seen hall => ?_⟩
  -- Both parts hear only what the whole hears.
  rw [exchanges_bind] at hall
  rw [run_bind]
  have hvalue := hs.given gateway seen fun e he => hall e (List.mem_append_left _ he)
  exact (hf _ hvalue).given _ _ fun e he => hall e (List.mem_append_right _ he)

/-- A part of a list may be left out. -/
theorem skippable {R : β → Prop} {skip : Bool} {s : Session (List β)}
    (hs : s.Hears T fun bs => ∀ b ∈ bs, R b) :
    (if skip then Pure.pure [] else s).Hears T fun bs => ∀ b ∈ bs, R b := by
  split
  · exact pure (List.forall_mem_nil _)
  · exact hs

theorem mapM {as : List α} (h : ∀ a ∈ as, (f a).Hears T Q) :
    (as.mapM f).Hears T fun bs => ∀ b ∈ bs, Q b := by
  induction as with
  | nil =>
    rw [List.mapM_nil]
    exact pure (List.forall_mem_nil _)
  | cons a as ih =>
    obtain ⟨ha, has⟩ := List.forall_mem_cons.mp h
    rw [List.mapM_cons]
    refine ha.bind fun b hb => (ih has).bind fun bs hbs => ?_
    exact pure (List.forall_mem_cons.mpr ⟨hb, hbs⟩)

/-- A loop keeps what each step of it keeps. -/
theorem foldlM {g : β → α → Session β} (h : ∀ acc a, Q acc → (g acc a).Hears T Q) {as : List α}
    {acc : β} (hacc : Q acc) : (as.foldlM g acc).Hears T Q := by
  induction as generalizing acc with
  | nil => exact pure hacc
  | cons a as ih =>
    rw [List.foldlM_cons]
    exact (h acc a hacc).bind fun _ hnext => ih hnext

end Hears
end Session

/-! ### Outcomes -/

/-- A condition on the value of an outcome; an error quotes texts of a kind alone. -/
def Outcome.Told {α : Type} (T : String → Prop) (P : α → Prop) : Outcome α → Prop
  | .ok value => P value
  | .error e => Quotes T e.message

namespace Outcome.Told

variable {T : String → Prop} {α β : Type} {P : α → Prop} {Q : β → Prop} {o : Outcome α}

theorem of_ok (h : Outcome.Told T P o) {value : α} (ho : o = .ok value) : P value := by
  subst ho
  exact h

theorem of_error (h : Outcome.Told T P o) {e : GatewayError} (ho : o = .error e) :
    Quotes T e.message := by
  subst ho
  exact h

theorem bind {f : α → Outcome β} (h : Outcome.Told T P o)
    (hf : ∀ value, P value → Outcome.Told T Q (f value)) : Outcome.Told T Q (o >>= f) := by
  cases o with
  | ok value => exact hf value h
  | error e => exact h

end Outcome.Told

/-- All texts that the reply says are of a kind. -/
def Reply.SaysOnly (T : String → Prop) (r : Reply) : Prop := ∀ s, r.Says s → T s

/-- All texts that the page says are of a kind. -/
def PageSaysOnly (T : String → Prop) (body : String) : Prop := ∀ s, PageSays body s → T s

section Wording

variable {T : String → Prop}

theorem quotes_timeout (seconds : Nat) : Quotes T (GatewayError.timeout seconds).message :=
  .plain (oneLine_append.mpr ⟨oneLine_append.mpr ⟨by decide, oneLine_repr seconds⟩, by decide⟩)

theorem quotes_network {reason : String} (h : OneLine reason) :
    Quotes T (GatewayError.network reason).message :=
  .plain (oneLine_append.mpr ⟨by decide, h⟩)

theorem quotes_invalidResponse {reason : String} (h : OneLine reason) :
    Quotes T (GatewayError.invalidResponse reason).message :=
  .plain (oneLine_append.mpr ⟨by decide, h⟩)

theorem quotes_badStatus {status : Nat} {reason : String} (h : Quotes T reason) :
    Quotes T (GatewayError.badStatus status reason).message :=
  .append (.plain (oneLine_append.mpr ⟨oneLine_status status, by decide⟩)) h

end Wording

namespace Reply

variable {T : String → Prop} (r : Reply) (budget : Nat)

theorem text_told : Outcome.Told T (fun body => body = r.received) (r.text budget) := by
  rw [text]
  split
  · rfl
  · exact quotes_invalidResponse (by decide)
  · exact quotes_timeout budget

theorem json_told :
    Outcome.Told T (fun page => Json.parse? r.received = some page) (r.json budget) := by
  refine (text_told r budget).bind fun body hbody => ?_
  subst hbody
  split
  · next hread => exact hread
  · exact quotes_invalidResponse (by decide)

/-- The error of a failed reply quotes the start of its body. -/
theorem SaysOnly.statusError {r : Reply} (h : r.SaysOnly T) (failed : (!r.head.succeeded) = true) :
    Quotes T (GatewayProbe.statusError r).message := by
  refine quotes_badStatus ?_
  rw [textOrEmpty]
  split
  · exact .quoted (h _ (.excerpt (.inl rfl) ((Bool.not_eq_true' _).mp failed)))
  · exact .plain (by decide)
  · exact .plain (by decide)

end Reply

/-! ### What a client hears -/

namespace Client

variable {T : String → Prop} (c : Client)

theorem sendWithin_hears (budget : Nat) (method path : String)
    (headers : List (String × String)) (body : String) :
    (c.sendWithin budget method path headers body).Hears T (Answer.SaysOnly T) := by
  unfold sendWithin
  cases target? (c.access.address ++ path) with
  | none => exact .pure fun r hr => by cases hr
  | some target =>
    dsimp only
    split
    · exact ⟨fun gateway seen hall => hall _ List.mem_cons_self⟩
    · exact .pure fun r hr => by cases hr

theorem received_told {answer : Answer} (h : answer.SaysOnly T) :
    Outcome.Told T (Reply.SaysOnly T) (c.received answer) := by
  cases answer with
  | reply r => exact h r rfl
  | refused => exact quotes_network (by decide)
  | closed => exact quotes_network (by decide)
  | silent => exact quotes_timeout c.budget

theorem get_hears (path : String) :
    (c.get path).Hears T (Outcome.Told T (Reply.SaysOnly T)) :=
  (c.sendWithin_hears _ _ _ _ _).bind fun _ h => .pure (c.received_told h)

theorem post_hears (path body : String) :
    (c.post path body).Hears T (Outcome.Told T (Reply.SaysOnly T)) :=
  (c.sendWithin_hears _ _ _ _ _).bind fun _ h => .pure (c.received_told h)

theorem postKeyed_hears (path : String) (body : Json) :
    (c.postKeyed path body).Hears T (Outcome.Told T (Reply.SaysOnly T)) :=
  (c.sendWithin_hears _ _ _ _ _).bind fun _ h => .pure (c.received_told h)

theorem successText_told {r : Reply} (hr : r.SaysOnly T) :
    Outcome.Told T (PageSaysOnly T) (c.successText r) := by
  refine (Reply.text_told r c.budget).bind fun body hbody => ?_
  subst hbody
  split
  · exact fun s hs => hr s (.page hs)
  · next hfailed =>
    have hexcerpt := hr _ (.excerpt (.inr rfl) (Bool.eq_false_iff.mpr hfailed))
    exact quotes_badStatus (.quoted hexcerpt)

theorem getPage_hears (path : String) :
    (c.getPage path).Hears T (Outcome.Told T (PageSaysOnly T)) := by
  refine (c.get_hears path).bind fun reply hreply => ?_
  cases reply with
  | ok reply => exact .pure (c.successText_told hreply)
  | error e => exact .pure hreply

end Client
end GatewayProbe
