/-
One request for each item of a list.

Most runs do the same for one item after another: a request is sent if it can be, and its outcome is
judged. An outcome that is an error is judged like any other, so a run of this kind reaches every
item, and what it gives for an item depends on the outcome of the item's own request alone.

* `Client.Tries` — one request, what is exchanged for it, and its outcome;
* `Trial` — an item with the exchanges and the outcome of its request;
* `Client.TriedAll` — the trials of all items, in their order;
* `Client.TriedAll.cons`, `Client.TriedAll.append` — trials one after the other;
* `Client.TriedAll.map_log` — what is told of each exchange, where all requests can be sent;
* `Session.Logs.judged` — a session that makes something of what came of a request;
* `Session.Logs.mapM_triedAll` — a session that takes its parts in turn;
* `Session.Logs.mapM_tried` — a session that judges one request for each item.
-/
import GatewayProbe.Proofs.Exchange.Exchanges

namespace GatewayProbe

/-- A request is sent and answered, or there is none that can be sent. -/
inductive Client.Tries (c : Client) : Option Request → List Exchange → Outcome Reply → Prop
  | sent (q : Request) (answer : Answer) : Tries c (some q) [(q, answer)] (c.received answer)
  | unsent : Tries c none [] (c.received .refused)

/-- An item with the exchanges and the outcome of its request. -/
structure Trial (α : Type) where
  item : α
  log : List Exchange
  reply : Outcome Reply

/-- Every item is tried, in order, and nothing else is exchanged. -/
structure Client.TriedAll {α : Type} (c : Client) (request? : α → Option Request) (items : List α)
    (log : List Exchange) (trials : List (Trial α)) : Prop where
  items : trials.map Trial.item = items
  log : trials.flatMap Trial.log = log
  tries : ∀ t ∈ trials, c.Tries (request? t.item) t.log t.reply

namespace Client

variable {α : Type} {c : Client} {request? : α → Option Request}

namespace TriedAll

variable {items more : List α} {log moreLog : List Exchange} {trials moreTrials : List (Trial α)}

theorem nil : c.TriedAll request? [] [] [] := ⟨rfl, rfl, by simp⟩

theorem append (h : c.TriedAll request? items log trials)
    (hmore : c.TriedAll request? more moreLog moreTrials) :
    c.TriedAll request? (items ++ more) (log ++ moreLog) (trials ++ moreTrials) := by
  refine ⟨?_, ?_, ?_⟩
  · rw [List.map_append, h.items, hmore.items]
  · rw [List.flatMap_append, h.log, hmore.log]
  · exact List.forall_mem_append.mpr ⟨h.tries, hmore.tries⟩

theorem cons {a : α} {own : List Exchange} {reply : Outcome Reply}
    (first : c.Tries (request? a) own reply) (rest : c.TriedAll request? items log trials) :
    c.TriedAll request? (a :: items) (own ++ log) (⟨a, own, reply⟩ :: trials) := by
  refine ⟨?_, ?_, ?_⟩
  · rw [List.map_cons, rest.items]
  · rw [List.flatMap_cons, rest.log]
  · exact List.forall_mem_cons.mpr ⟨first, rest.tries⟩

theorem length_eq (h : c.TriedAll request? items log trials) : trials.length = items.length := by
  rw [← h.items, List.length_map]

/-- Where all requests can be sent, there is one exchange for each trial. -/
theorem map_log {β : Type} (h : c.TriedAll request? items log trials)
    (sent : ∀ a ∈ items, (request? a).isSome = true) {tell : Exchange → β} {judge : Trial α → β}
    (alike : ∀ t ∈ trials, ∀ q answer, t.reply = c.received answer → tell (q, answer) = judge t) :
    log.map tell = trials.map judge := by
  -- A request that can be sent was sent, so it is the one exchange of its trial.
  have hone : ∀ t ∈ trials, t.log.map tell = [judge t] := by
    intro t ht
    have hsent := sent t.item (h.items ▸ List.mem_map_of_mem ht)
    have htries := h.tries t ht
    obtain ⟨item, own, reply⟩ := t
    dsimp only at hsent htries
    generalize request? item = q? at hsent htries
    cases htries with
    | sent q answer => exact congrArg (fun b => [b]) (alike _ ht q answer rfl)
    | unsent => cases hsent
  rw [← h.log, List.map_flatMap, List.flatMap_congr hone, List.map_eq_flatMap]

theorem length_log (h : c.TriedAll request? items log trials)
    (sent : ∀ a ∈ items, (request? a).isSome = true) : log.length = items.length := by
  have hmap : log.map (fun _ => ()) = trials.map fun _ => () :=
    h.map_log sent fun _ _ _ _ _ => rfl
  have hlength := congrArg List.length hmap
  rw [List.length_map, List.length_map] at hlength
  rw [hlength, h.length_eq]

end TriedAll

variable (c)

theorem sendWithin_tries (budget : Nat) (method path : String) (headers : List (String × String))
    (body : String) :
    (c.sendWithin budget method path headers body).Logs fun log answer =>
      c.Tries (c.requestWithin? budget method path headers body) log (c.received answer) := by
  unfold sendWithin
  rw [requestWithin?]
  cases target? (c.access.address ++ path) with
  | none =>
    rw [Option.map_none, ite_self]
    exact .pure .unsent
  | some target =>
    dsimp only
    split
    · exact fun gateway seen => .sent _ _
    · exact .pure .unsent

theorem get_tries (path : String) :
    (c.get path).Logs fun log reply => c.Tries (c.getRequest? path) log reply := by
  refine (c.sendWithin_tries _ _ _ _ _).bind fun log answer h => ?_
  refine .pure ?_
  rwa [List.append_nil]

theorem postValue_tries (path : String) (body : Json) :
    (c.postValue path body).Logs fun log reply => c.Tries (c.postRequest? path body) log reply := by
  refine (c.sendWithin_tries _ _ _ _ _).bind fun log answer h => ?_
  refine .pure ?_
  rwa [List.append_nil]

end Client

namespace Session.Logs

variable {α β : Type} {c : Client} {request? : α → Option Request}

/-- A session that makes something of a value without a request. -/
theorem judged {γ : Type} {R : List Exchange → γ → Prop} {s : Session γ} {f : γ → Session β}
    {judge : List Exchange → γ → β} (hs : s.Logs R)
    (hf : ∀ log value, f value = Pure.pure (judge log value)) :
    (s >>= f).Logs fun log b => ∃ value, R log value ∧ b = judge log value := by
  refine hs.bind fun log value hvalue => ?_
  rw [hf log value]
  refine pure ⟨value, ?_, ?_⟩
  · rwa [List.append_nil]
  · rw [List.append_nil]

/-- What holds of nothing, and of one more part with its trials if it holds of those after it, holds
of a session that takes its parts in turn. -/
theorem mapM_triedAll {γ : Type} {f : γ → Session β} {items : γ → List α}
    {S : List γ → List β → List (Trial α) → Prop} (nil : S [] [] [])
    (part : ∀ g, (f g).Logs fun log b => ∃ trials, c.TriedAll request? (items g) log trials ∧
      ∀ {gs bs more}, S gs bs more → S (g :: gs) (b :: bs) (trials ++ more)) (gs : List γ) :
    (gs.mapM f).Logs fun log bs => ∃ trials,
      c.TriedAll request? (gs.flatMap items) log trials ∧ S gs bs trials := by
  induction gs with
  | nil =>
    rw [List.mapM_nil]
    exact pure ⟨[], .nil, nil⟩
  | cons g gs ih =>
    rw [List.mapM_cons]
    refine (part g).bind ?_
    rintro own b ⟨trials, htried, hpart⟩
    refine ih.bind ?_
    rintro log bs ⟨more, hmore, hrest⟩
    -- The parts after this one hold by now, and this one was said to go in front of any that do.
    refine pure ⟨trials ++ more, ?_, hpart hrest⟩
    rw [List.append_nil]
    exact htried.append hmore

/-- A session that judges one request for each item tries all of them. -/
theorem mapM_tried {f : α → Session β} {judge : Trial α → β}
    (h : ∀ a, (f a).Logs fun log b => ∃ reply,
      c.Tries (request? a) log reply ∧ b = judge ⟨a, log, reply⟩) (as : List α) :
    (as.mapM f).Logs fun log bs => ∃ trials,
      c.TriedAll request? as log trials ∧ bs = trials.map judge := by
  have hpart : ∀ a, (f a).Logs fun log b => ∃ trials, c.TriedAll request? [a] log trials ∧
      ∀ {as : List α} {bs more}, bs = more.map judge → b :: bs = (trials ++ more).map judge := by
    refine fun a => (h a).mono ?_
    rintro log _ ⟨reply, htries, rfl⟩
    have htried : c.TriedAll request? [a] (log ++ []) [⟨a, log, reply⟩] := .cons htries .nil
    rw [List.append_nil] at htried
    exact ⟨_, htried, fun hrest => hrest ▸ rfl⟩
  have hparts := mapM_triedAll rfl hpart as
  rwa [List.flatMap_singleton'] at hparts

end Session.Logs
end GatewayProbe
