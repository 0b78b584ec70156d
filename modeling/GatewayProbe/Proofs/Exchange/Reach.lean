/-
Which requests can be sent to a gateway.

A request can be sent if the address of the gateway and its route make a web address together. The
address decides that alone: its scheme ends before the route begins, and so does its host, unless
the address has no host at all. Then the first step of the route is taken for the host, and the
routes of a gateway begin with a step that can be one. So if one plain route can be reached, all of
them can:

* `Route.IsPlain` — no blanks, and a first step that a host could have for its name;
* `afterScheme?_append`, `authorityOf_append` — what a route leaves of scheme and host;
* `isSome_target?_iff` — the condition on the address, the same for all plain routes;
* `Client.isSome_requestWithin?` — the requests for plain routes can all be sent, or none;
* `Client.isSome_of_reply` — a request that was answered could be sent.
-/
import Mathlib.Data.List.TakeWhile
import GatewayProbe.Proofs.Exchange.Exchanges
import GatewayProbe.Proofs.Text.LetterCase

namespace GatewayProbe

namespace WebAddress

/-- A slash of either kind. -/
def isSlash (c : Char) : Bool := c = '/' || c = '\\'

/-- Ends the host part of an address, where slashes of both kinds count. -/
def endsAuthority (c : Char) : Bool := Target.endsHost c || c = '\\'

/-- What stands for host and service after the scheme of an address. -/
def authorityOf (cs : List Char) : List Char :=
  (cs.dropWhile isSlash).takeWhile (!endsAuthority ·)

/-- Drops tabs and line breaks. -/
def unbroken (cs : List Char) : List Char :=
  cs.filter fun c => c ≠ '\t' && c ≠ '\n' && c ≠ '\r'

/-- An address without blanks at its ends, and without tabs and line breaks. -/
def bare (cs : List Char) : List Char :=
  unbroken (Text.dropEndWhile (·.toNat ≤ 0x20) (cs.dropWhile (·.toNat ≤ 0x20)))

theorem isSome_parse?_iff {url : String} :
    (parse? url).isSome = true ↔ ∃ r, Target.afterScheme? (bare url.toList) = some r ∧
      Target.isAuthority (authorityOf r.2) = true := by
  rw [parse?]
  change (Option.bind (Target.afterScheme? (bare url.toList)) _).isSome = true ↔ _
  cases Target.afterScheme? (bare url.toList) with
  | none => simp
  | some r =>
    rw [Option.bind_some]
    change (if (!Target.isAuthority (authorityOf r.2)) = true then none else _).isSome = true ↔ _
    cases hauthority : Target.isAuthority (authorityOf r.2) <;> simp [hauthority]

/-- Neither a blank nor anything below it. -/
def isVisible (c : Char) : Bool := 0x20 < c.toNat

section Append

variable {cs path : List Char}

theorem visible_of_mem (h : path.all isVisible = true) {c : Char} (hc : c ∈ path) :
    0x20 < c.toNat :=
  of_decide_eq_true (List.all_eq_true.mp h c hc)

theorem unbroken_plain (h : path.all isVisible = true) : unbroken path = path := by
  refine List.filter_eq_self.mpr fun c hc => ?_
  have hvisible := visible_of_mem h hc
  have hne (d : Char) (hd : d.toNat ≤ 0x20) : c ≠ d := by
    rintro rfl
    exact absurd hvisible (Nat.not_lt.mpr hd)
  simp [hne '\t' (by decide), hne '\n' (by decide), hne '\r' (by decide)]

/-- A route without blanks is the end of the bare address. -/
theorem bare_append (hpath : path ≠ []) (h : path.all isVisible = true) :
    bare (cs ++ path) = unbroken (cs.dropWhile (·.toNat ≤ 0x20)) ++ path := by
  have hplain : ∀ c ∈ path, ¬(decide (c.toNat ≤ 0x20)) = true := fun c hc => by
    simpa using visible_of_mem h hc
  -- Both ends of the route are kept: the address may be all blanks, the route never begins with one.
  have hfront : (cs ++ path).dropWhile (·.toNat ≤ 0x20) =
      cs.dropWhile (·.toNat ≤ 0x20) ++ path := by
    rw [List.dropWhile_append]
    split
    · next hblank =>
      rw [List.isEmpty_iff.mp hblank, List.nil_append]
      exact List.dropWhile_eq_self_iff.mpr fun hlength => hplain _ (List.getElem_mem hlength)
    · rfl
  have hend : Text.dropEndWhile (·.toNat ≤ 0x20) (cs.dropWhile (·.toNat ≤ 0x20) ++ path) =
      cs.dropWhile (·.toNat ≤ 0x20) ++ path := by
    rw [Text.dropEndWhile_eq, List.rdropWhile_eq_self_iff]
    intro _
    rw [List.getLast_append_of_ne_nil _ hpath]
    exact hplain _ (List.getLast_mem hpath)
  rw [bare, hfront, hend, unbroken, List.filter_append]
  exact congrArg (_ ++ ·) (unbroken_plain h)

theorem length_of_take {word : String}
    (h : Text.eqIgnoreCase (String.ofList (cs.take word.length)) word = true) :
    word.length ≤ cs.length := by
  rw [Text.eqIgnoreCase_iff, String.toList_ofList] at h
  have hlength := congrArg List.length h
  rw [List.length_map, List.length_map, List.length_take, String.length_toList] at hlength
  omega

/-- A word without a slash ends before the first slash, or is not met at all. -/
theorem eqIgnoreCase_take_append {word : String} (hword : '/' ∉ word.toList.map Char.toLower) :
    Text.eqIgnoreCase (String.ofList ((cs ++ '/' :: path).take word.length)) word =
      Text.eqIgnoreCase (String.ofList (cs.take word.length)) word := by
  by_cases hlength : word.length ≤ cs.length
  · rw [List.take_append_of_le_length hlength]
  -- Otherwise the front that is compared holds the slash, or is too short without it.
  · rw [Bool.eq_iff_iff]
    refine iff_of_false (fun h => hword ?_) (mt length_of_take hlength)
    rw [Text.eqIgnoreCase_iff, String.toList_ofList] at h
    rw [← h, List.take_append]
    obtain ⟨k, hk⟩ : ∃ k, word.length - cs.length = k + 1 :=
      Nat.exists_eq_add_one.mpr (by omega)
    rw [hk, List.take_succ_cons, List.map_append, List.map_cons]
    exact List.mem_append_right _ List.mem_cons_self

/-- A scheme ends before the first slash. -/
theorem afterScheme?_append :
    Target.afterScheme? (cs ++ '/' :: path) =
      (Target.afterScheme? cs).map fun r => (r.1, r.2 ++ '/' :: path) := by
  rw [Target.afterScheme?, Target.afterScheme?]
  dsimp only
  rw [eqIgnoreCase_take_append (by decide), eqIgnoreCase_take_append (by decide)]
  by_cases hplain : Text.eqIgnoreCase (String.ofList (cs.take "http:".length)) "http:" = true
  · rw [if_pos hplain, if_pos hplain, List.drop_append_of_le_length (length_of_take hplain)]
    rfl
  · rw [if_neg hplain, if_neg hplain]
    by_cases hsecure : Text.eqIgnoreCase (String.ofList (cs.take "https:".length)) "https:" = true
    · rw [if_pos hsecure, if_pos hsecure, List.drop_append_of_le_length (length_of_take hsecure)]
      rfl
    · rw [if_neg hsecure, if_neg hsecure]
      rfl

/-- A route is the host where the address has none. -/
theorem authorityOf_append :
    authorityOf (cs ++ '/' :: path) =
      if cs.all isSlash then authorityOf path else authorityOf cs := by
  -- The slashes of the address and that of the route are dropped as one run, or end the host.
  rw [authorityOf, List.dropWhile_append]
  by_cases hslashes : cs.all isSlash = true
  · have hnone : cs.dropWhile isSlash = [] :=
      List.dropWhile_eq_nil_iff.mpr (List.all_eq_true.mp hslashes)
    rw [hnone, if_pos List.isEmpty_nil, if_pos hslashes, List.dropWhile_cons_of_pos (by decide)]
    rfl
  · have hsome : cs.dropWhile isSlash ≠ [] := fun hnone =>
      hslashes (List.all_eq_true.mpr (List.dropWhile_eq_nil_iff.mp hnone))
    rw [if_neg (mt List.isEmpty_iff.mp hsome), if_neg hslashes, authorityOf, List.takeWhile_append,
      List.takeWhile_cons_of_neg (by decide), List.append_nil]
    split
    · next hall => exact ((List.takeWhile_prefix _).eq_of_length hall).symm
    · rfl

end Append
end WebAddress

/-! ### Plain routes -/

/-- A route has no blanks, and its first step could be a host. -/
def Route.IsPlain (route : String) : Prop :=
  ∃ path, route.toList = '/' :: path ∧ ('/' :: path).all WebAddress.isVisible = true ∧
    Target.isAuthority (WebAddress.authorityOf path) = true

/-- An address can be sent to with a plain route, whichever it is. -/
theorem isSome_target?_iff {address route : String} (plain : Route.IsPlain route) :
    (target? (address ++ route)).isSome = true ↔
      ∃ r, Target.afterScheme?
          (WebAddress.unbroken (address.toList.dropWhile (·.toNat ≤ 0x20))) = some r ∧
        (r.2.all WebAddress.isSlash = true ∨
          Target.isAuthority (WebAddress.authorityOf r.2) = true) := by
  obtain ⟨path, hroute, hvisible, hhost⟩ := plain
  rw [target?, Option.isSome_map, WebAddress.isSome_parse?_iff, String.toList_append, hroute,
    WebAddress.bare_append (List.cons_ne_nil _ _) hvisible, WebAddress.afterScheme?_append]
  constructor
  · rintro ⟨_, hscheme, hauthority⟩
    obtain ⟨r, hr, rfl⟩ := Option.map_eq_some_iff.mp hscheme
    refine ⟨r, hr, ?_⟩
    rw [WebAddress.authorityOf_append] at hauthority
    split at hauthority
    · next hslashes => exact .inl hslashes
    · exact .inr hauthority
  · rintro ⟨r, hr, hr2⟩
    refine ⟨_, Option.map_eq_some_iff.mpr ⟨r, hr, rfl⟩, ?_⟩
    rw [WebAddress.authorityOf_append]
    split
    · exact hhost
    · next hslashes => exact hr2.resolve_left hslashes

namespace Route

open WebAddress

theorem isPlain_under {family rest : String} (hfamily : family.toList.all isVisible = true)
    (hrest : rest.toList.all isVisible = true) : IsPlain (under family rest) := by
  let front : List Char := ['/', 'o', 'l', 'l', 'a', '/']
  have hroute : (under family rest).toList = front ++ (family.toList ++ rest.toList) := by
    rw [under, String.toList_append, String.toList_append, List.append_assoc]
    rfl
  refine ⟨_, hroute, ?_, rfl⟩
  show (front ++ (family.toList ++ rest.toList)).all isVisible = true
  rw [List.all_append, List.all_append, hfamily, hrest]
  decide

theorem isPlain_health : IsPlain health := ⟨"internal/health".toList, rfl, by decide, by decide⟩

end Route

/-- If a request for one plain route can be sent, those for all plain routes can. -/
theorem Client.isSome_requestWithin? {c : Client} {budget budget' : Nat}
    {method method' route route' body body' : String} {headers headers' : List (String × String)}
    (plain : Route.IsPlain route) (plain' : Route.IsPlain route')
    (sendable : headers'.all (fun header => isSendable header.2) = true)
    (h : (c.requestWithin? budget method route headers body).isSome = true) :
    (c.requestWithin? budget' method' route' headers' body').isSome = true := by
  have htarget : (target? (c.access.address ++ route)).isSome = true := by
    rw [requestWithin?] at h
    split at h
    · rwa [Option.isSome_map] at h
    · cases h
  rw [isSome_target?_iff plain, ← isSome_target?_iff plain'] at htarget
  rwa [requestWithin?, if_pos sendable, Option.isSome_map]

/-- What was answered was sent. -/
theorem Client.isSome_of_reply {c : Client} {budget : Nat} {method path body : String}
    {headers : List (String × String)} {gateway : Gateway} {seen : List Request} {r : Reply}
    (h : ((c.sendWithin budget method path headers body).run gateway seen).1 = .reply r) :
    (c.requestWithin? budget method path headers body).isSome = true := by
  rcases c.sendWithin_logs budget method path headers body gateway seen with
    ⟨q, hq, -⟩ | ⟨-, hrefused⟩
  · exact Option.isSome_iff_exists.mpr ⟨q, hq⟩
  · rw [h] at hrefused
    cases hrefused

end GatewayProbe
