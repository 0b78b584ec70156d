/-
Two gateways whose answers differ in what does not count.

Some headers of a response are advice. Two gateways that differ in them only are asked the same as
long as nothing that is read of a reply depends on them, and then what a run finds out is related
step by step:

* `Session.Matched` — two sessions that ask the same and end in related values, on answers that are
  alike; `Session.Matched.bind` and `Session.Matched.mapM` put them together;
* `Session.Matched.run` — so do their runs against two gateways;
* `Headers.plain`, `Reply.plain` — what is left of a response without advice;
* `Answer.Alike` — answers that differ in advice at most;
* `Reply.text_plain`, `Reply.json_plain`, `Reply.capture_plain` — a body is read without advice;
* `Client.get_matched` and those after it — what a client asks, and what it makes of the answers.
-/
import Mathlib.Data.List.Forall2
import GatewayProbe.Events.Body
import GatewayProbe.Proofs.Exchange.Sessions

namespace GatewayProbe

namespace Session

variable {α β γ δ : Type}

/-- Two sessions ask the same requests as long as the answers are alike, and end in related
values. -/
inductive Matched (Alike : Answer → Answer → Prop) (R : α → β → Prop) :
    Session α → Session β → Prop
  | done {a : α} {b : β} (related : R a b) : Matched Alike R (.done a) (.done b)
  | ask {request : Request} {next : Answer → Session α} {next' : Answer → Session β}
      (rest : ∀ x y, Alike x y → Matched Alike R (next x) (next' y)) :
      Matched Alike R (.ask request next) (.ask request next')

namespace Matched

variable {Alike : Answer → Answer → Prop} {R : α → β → Prop} {S : γ → δ → Prop}
  {s : Session α} {t : Session β}

theorem pure {a : α} {b : β} (h : R a b) :
    Matched Alike R (Pure.pure a : Session α) (Pure.pure b) :=
  .done h

theorem bind {f : α → Session γ} {g : β → Session δ} (hs : Matched Alike R s t)
    (hf : ∀ a b, R a b → Matched Alike S (f a) (g b)) : Matched Alike S (s >>= f) (t >>= g) := by
  induction hs with
  | done related => exact hf _ _ related
  | ask _ ih => exact .ask ih

/-- A part that may be left out on both sides. -/
theorem skippable {skip : Bool} {a : α} {b : β} (h : R a b) (hs : Matched Alike R s t) :
    Matched Alike R (if skip then Pure.pure a else s) (if skip then Pure.pure b else t) := by
  cases skip with
  | true => exact pure h
  | false => exact hs

theorem mapM {R : γ → γ → Prop} {f : α → Session γ} (hf : ∀ a, Matched Alike R (f a) (f a))
    (as : List α) : Matched Alike (List.Forall₂ R) (as.mapM f) (as.mapM f) := by
  induction as with
  | nil =>
    rw [List.mapM_nil]
    exact pure .nil
  | cons a as ih =>
    rw [List.mapM_cons]
    refine (hf a).bind fun x y hxy => ?_
    exact ih.bind fun xs ys hxys => pure (.cons hxy hxys)

/-- Gateways whose answers are alike are asked the same, and the values are related. Only whether
there was a connection tells what a gateway has seen. -/
theorem run {gateway gateway' : Gateway} (hs : Matched Alike R s t)
    (alike : ∀ seen q, Alike (gateway seen q) (gateway' seen q))
    (connected : ∀ x y, Alike x y → (x = .refused ↔ y = .refused)) (seen : List Request) :
    R (s.run gateway seen).1 (t.run gateway' seen).1 ∧
      (s.run gateway seen).2 = (t.run gateway' seen).2 := by
  induction hs generalizing seen with
  | done related => exact ⟨related, rfl⟩
  | @ask request _ _ _ ih =>
    have hanswer := alike seen request
    rw [Session.run, Session.run]
    simp only [connected _ _ hanswer]
    exact ih _ _ hanswer _

end Matched
end Session

/-! ### Answers without advice -/

/-- The headers that are advice. -/
def advisoryHeaders : List String :=
  ["x-olla-endpoint", "x-olla-model", "x-olla-backend-type", "x-olla-request-id",
   "x-olla-response-time"]

/-- A header is advice, whatever the case of its letters. -/
def isAdvisory (name : String) : Bool := advisoryHeaders.any (Text.eqIgnoreCase name)

/-- The headers that are no advice. -/
def Headers.plain (headers : Headers) : Headers := headers.filter fun h => !isAdvisory h.1

/-- A response without advice. -/
def Reply.plain (r : Reply) : Reply := { r with headers := r.headers.plain }

theorem eqIgnoreCase_congr {s t : String} (h : Text.eqIgnoreCase s t = true) (u : String) :
    Text.eqIgnoreCase s u = Text.eqIgnoreCase t u := by
  rw [Text.eqIgnoreCase, beq_iff_eq] at h
  rw [Text.eqIgnoreCase, Text.eqIgnoreCase, h]

/-- A header that is no advice is read as it was. -/
theorem Headers.first?_plain {name : String} (h : isAdvisory name = false) (headers : Headers) :
    headers.plain.first? name = headers.first? name := by
  have hkept : (fun header : String × List UInt8 =>
      decide ((!isAdvisory header.1) = true ∧ Text.eqIgnoreCase header.1 name = true)) =
        fun header => Text.eqIgnoreCase header.1 name := by
    funext header
    by_cases hname : Text.eqIgnoreCase header.1 name = true
    · have hplain : isAdvisory header.1 = false := by
        rw [isAdvisory, funext (eqIgnoreCase_congr hname)]
        exact h
      simp [hname, hplain]
    · simp [hname]
  rw [first?, first?, plain, List.find?_filter, hkept]

namespace Reply

variable (budget : Nat) (r : Reply)

theorem head_mode_plain : r.plain.head.mode = r.head.mode := by
  show r.headers.plain.value? "x-olla-mode" = r.headers.value? "x-olla-mode"
  rw [Headers.value?, Headers.text?, Headers.first?_plain (by decide)]
  rfl

theorem head_contentType_plain : r.plain.head.contentType = r.head.contentType := by
  show r.headers.plain.value? "content-type" = r.headers.value? "content-type"
  rw [Headers.value?, Headers.text?, Headers.first?_plain (by decide)]
  rfl

theorem text_plain : r.plain.text budget = r.text budget := by
  have hreceived : r.plain.received = r.received := by
    show Text.bodyText (r.headers.plain.text? "content-type") r.bytes = _
    rw [Headers.text?, Headers.first?_plain (by decide)]
    rfl
  rw [text, hreceived]
  rfl

theorem json_plain : r.plain.json budget = r.json budget := by
  rw [json, text_plain]
  rfl

theorem capture_plain (dialect : Dialect) :
    r.plain.capture budget dialect = r.capture budget dialect := rfl

variable {r} in
/-- What does not depend on advice is the same of responses that differ in it only. -/
theorem eq_of_plain {α : Type} {f : Reply → α} {r' : Reply} (h : r.plain = r'.plain)
    (hf : ∀ r : Reply, f r.plain = f r) : f r = f r' := by
  rw [← hf r, h, hf]

end Reply

/-- Two answers differ in advice at most. -/
inductive Answer.Alike : Answer → Answer → Prop
  | reply {r r' : Reply} (h : r.plain = r'.plain) : Alike (.reply r) (.reply r')
  | same (a : Answer) : Alike a a

/-- An answer without advice. -/
def Answer.plain : Answer → Answer
  | .reply r => .reply r.plain
  | .refused => .refused
  | .closed => .closed
  | .silent => .silent

theorem Answer.alike_plain (a : Answer) : a.Alike a.plain := by
  cases a with
  | reply r => exact .reply (by simp only [Reply.plain, Headers.plain, List.filter_filter,
      Bool.and_self])
  | refused | closed | silent => exact .same _

/-- Two outcomes of a request: one error, or responses that differ in advice at most. -/
inductive AlikeReplies : Outcome Reply → Outcome Reply → Prop
  | failed (e : GatewayError) : AlikeReplies (.error e) (.error e)
  | replied {r r' : Reply} (h : r.plain = r'.plain) : AlikeReplies (.ok r) (.ok r')

theorem Answer.Alike.refused_iff {x y : Answer} (h : Alike x y) :
    x = .refused ↔ y = .refused := by
  cases h with
  | reply h => exact iff_of_false (fun h => nomatch h) (fun h => nomatch h)
  | same => exact Iff.rfl

theorem Answer.Alike.received {x y : Answer} (h : Alike x y) (c : Client) :
    AlikeReplies (c.received x) (c.received y) := by
  cases h with
  | reply h => exact .replied h
  | same =>
    cases x with
    | reply r => exact .replied rfl
    | refused | closed | silent => exact .failed _

/-! ### The requests of a client -/

namespace Client

variable (c : Client)

open Session

theorem sendWithin_matched (budget : Nat) (method path : String)
    (headers : List (String × String)) (body : String) :
    Matched Answer.Alike Answer.Alike (c.sendWithin budget method path headers body)
      (c.sendWithin budget method path headers body) := by
  unfold sendWithin
  cases target? (c.access.address ++ path) with
  | none => exact .pure (.same _)
  | some target =>
    dsimp only
    split
    · exact .ask fun _ _ h => .done h
    · exact .pure (.same _)

theorem get_matched (path : String) :
    Matched Answer.Alike AlikeReplies (c.get path) (c.get path) :=
  (c.sendWithin_matched _ _ _ _ _).bind fun _ _ h => .pure (h.received c)

theorem postValue_matched (path : String) (body : Json) :
    Matched Answer.Alike AlikeReplies (c.postValue path body) (c.postValue path body) :=
  (c.sendWithin_matched _ _ _ _ _).bind fun _ _ h => .pure (h.received c)

theorem postMessage_matched (body : Json) :
    Matched Answer.Alike AlikeReplies (c.postMessage body) (c.postMessage body) :=
  (c.sendWithin_matched _ _ _ _ _).bind fun _ _ h => .pure (h.received c)

theorem successText_plain (r : Reply) : c.successText r.plain = c.successText r := by
  rw [successText, r.text_plain]
  rfl

theorem getPage_matched (path : String) :
    Matched Answer.Alike Eq (c.getPage path) (c.getPage path) := by
  refine (c.get_matched path).bind ?_
  rintro _ _ (e | h)
  · exact .pure rfl
  · exact .pure (Reply.eq_of_plain h c.successText_plain)

theorem requireHealth_matched :
    Matched Answer.Alike Eq c.requireHealth c.requireHealth := by
  refine (c.sendWithin_matched _ _ _ _ _).bind fun x y h => ?_
  cases h with
  | reply h =>
    have hstatus := congrArg Reply.status h
    dsimp only [Reply.plain] at hstatus
    dsimp only
    rw [hstatus]
    exact .pure rfl
  | same => cases x <;> exact .pure rfl

end Client
end GatewayProbe
