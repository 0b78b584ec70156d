/-
The list of endpoints has one canonical form.

Of the entries on a page the first of each name is kept, where a name is what is left of the text
that is written, and a blank one counts as the name of what has none. What is kept has no blanks
around any text. So a page whose texts have other blanks around them is read to the same endpoints.

* `EndpointEntry.called`, `EndpointEntry.firstCalled` — the name of an entry, and the entries whose
  name does not occur before them;
* `Endpoint.ofEntries_eq` — these are the entries that are kept, in their order;
* `Endpoint.called_mem_ofEntries` — and no name is lost;
* `Listing.respects_endpointEntries?` — blanks around texts make no other endpoints;
* `readEndpoints_canonical` — the form of what is read.
-/
import GatewayProbe.Proofs.Inventory.Endpoints
import GatewayProbe.Proofs.Json.Padding

namespace GatewayProbe

open Text (nonBlank? IsBare isBare_of_nonBlank?)

/-! ### The entries that are kept -/

namespace EndpointEntry

/-- The name that an entry goes by. -/
def called (entry : EndpointEntry) : String := (nonBlank? entry.name).getD unknownName

/-- The entries whose name is neither among `seen` nor that of an entry before them. -/
def firstBeside (seen : List String) (entries : List EndpointEntry) : List EndpointEntry :=
  (entries.zipIdx.filter fun (entry, i) =>
    entry.called ∉ seen ∧ entry.called ∉ (entries.take i).map called).map Prod.fst

/-- The entries whose name does not occur before them. -/
def firstCalled (entries : List EndpointEntry) : List EndpointEntry :=
  (entries.zipIdx.filter fun (entry, i) => entry.called ∉ (entries.take i).map called).map Prod.fst

theorem firstBeside_nil_seen (entries : List EndpointEntry) :
    firstBeside [] entries = firstCalled entries := by
  simp only [firstBeside, firstCalled, List.not_mem_nil, not_false_eq_true, true_and]

/-- Behind the first entry its name counts as seen. -/
theorem firstBeside_cons (seen : List String) (entry : EndpointEntry)
    (rest : List EndpointEntry) :
    firstBeside seen (entry :: rest) =
      if entry.called ∈ seen then firstBeside (entry.called :: seen) rest
      else entry :: firstBeside (entry.called :: seen) rest := by
  have hrest : ((rest.zipIdx 1).filter fun (other, i) => other.called ∉ seen ∧
      other.called ∉ ((entry :: rest).take i).map called).map Prod.fst =
        firstBeside (entry.called :: seen) rest := by
    rw [List.zipIdx_succ, List.filter_map, List.map_map, firstBeside]
    refine congrArg₂ List.map rfl (List.filter_congr fun x _ => decide_eq_decide.mpr ?_)
    simp only [List.take_succ_cons, List.map_cons, List.mem_cons, not_or]
    tauto
  rw [firstBeside, List.zipIdx_cons, List.filter_cons, ← hrest]
  by_cases hseen : entry.called ∈ seen
  · simp [hseen]
  · simp [hseen]

/-- A name that was seen already adds nothing to the names seen. -/
theorem firstBeside_seen {seen : List String} {name : String} (h : name ∈ seen)
    (entries : List EndpointEntry) :
    firstBeside (name :: seen) entries = firstBeside seen entries := by
  have hmem (other : String) : other ∈ name :: seen ↔ other ∈ seen :=
    ⟨fun hother => (List.mem_cons.mp hother).elim (fun heq => heq ▸ h) id,
      List.mem_cons_of_mem name⟩
  simp only [firstBeside, hmem]

end EndpointEntry

namespace Endpoint

open EndpointEntry (called firstBeside firstCalled firstBeside_cons firstBeside_seen)

theorem firstOfName_ofEntry (seen : List String) (entries : List EndpointEntry) :
    firstOfName seen (entries.map ofEntry) = (firstBeside seen entries).map ofEntry := by
  induction entries generalizing seen with
  | nil => rfl
  | cons entry rest ih =>
    have hname : (ofEntry entry).name = entry.called := rfl
    rw [List.map_cons, firstOfName, hname, firstBeside_cons]
    by_cases hseen : entry.called ∈ seen
    · rw [if_pos (List.contains_iff_mem.mpr hseen), if_pos hseen, firstBeside_seen hseen, ih]
    · rw [if_neg (mt List.contains_iff_mem.mp hseen), if_neg hseen, List.map_cons, ih]

/-- The endpoints are those of the entries whose name does not occur before them. -/
theorem ofEntries_eq (entries : List EndpointEntry) :
    ofEntries entries = (firstCalled entries).map ofEntry := by
  rw [ofEntries, firstOfName_ofEntry, EndpointEntry.firstBeside_nil_seen]

/-- Every name is either among those seen or that of an endpoint that is kept. -/
theorem name_mem_firstOfName {e : Endpoint} {seen : List String} {es : List Endpoint}
    (h : e ∈ es) : e.name ∈ seen ∨ e.name ∈ (firstOfName seen es).map name := by
  fun_induction firstOfName seen es with
  | case1 => cases h
  | case2 seen first rest hseen ih =>
    rcases List.mem_cons.mp h with rfl | h
    · exact .inl (List.contains_iff_mem.mp hseen)
    · exact ih h
  | case3 seen first rest hnew ih =>
    rcases List.mem_cons.mp h with rfl | h
    · exact .inr (List.mem_map_of_mem List.mem_cons_self)
    · rcases ih h with hseen | hlater
      · rcases List.mem_cons.mp hseen with heq | hseen
        · rw [heq]
          exact .inr (List.mem_map_of_mem List.mem_cons_self)
        · exact .inl hseen
      · exact .inr (List.mem_cons_of_mem _ hlater)

/-- No name is lost. -/
theorem called_mem_ofEntries {entry : EndpointEntry} {entries : List EndpointEntry}
    (h : entry ∈ entries) : entry.called ∈ (ofEntries entries).map name :=
  (name_mem_firstOfName (List.mem_map_of_mem h)).resolve_left List.not_mem_nil

/-! ### Blanks around the texts of a page -/

theorem IsNormal.isBare {e : Endpoint} (h : e.IsNormal) :
    IsBare e.name ∧ IsBare e.type ∧ IsBare e.status ∧ ∀ url ∈ e.url, IsBare url := by
  refine ⟨isBare_of_nonBlank? h.name, isBare_of_nonBlank? h.type, isBare_of_nonBlank? h.status,
    fun url hurl => ?_⟩
  obtain ⟨text, -, htext⟩ := Option.bind_eq_some_iff.mp (h.url.trans hurl)
  exact isBare_of_nonBlank? htext

end Endpoint

/-- Texts that differ in the blanks around them leave the same, where there are any. -/
theorem bind_nonBlank?_congr {s t : Option String}
    (h : Option.Rel (fun s t => nonBlank? s = nonBlank? t) s t) :
    s.bind nonBlank? = t.bind nonBlank? := by
  cases h with
  | none => rfl
  | some h => exact h

namespace Listing

open Document (Respects)

/-- An entry is read to the same endpoint. -/
theorem respects_endpointEntry? :
    Respects (fun entry other => Endpoint.ofEntry entry = Endpoint.ofEntry other)
      endpointEntry? := by
  intro doc other h
  refine rel_bind (Document.fields?_padsTo h _) fun known wide hknown => ?_
  have htext (name : String) := hknown.read name "" Document.respects_text? rfl
  have hurl := hknown.read "url" none Document.respects_text?.optional? .none
  have hcount := hknown.read "model_count" 0 (Document.respects_natural? Decimal.word32) rfl
  refine rel_bind (htext "name") fun _ _ hname => ?_
  refine rel_bind (htext "type") fun _ _ htype => ?_
  refine rel_bind hurl fun _ _ hurl => ?_
  refine rel_bind (htext "status") fun _ _ hstatus => ?_
  refine rel_bind hcount fun _ _ hcount => .some ?_
  simp only [Endpoint.ofEntry, hname, htype, hstatus, hcount, bind_nonBlank?_congr hurl]

/-- The entries of a page are read to the same endpoints, one by one. -/
theorem respects_endpointEntries? :
    Respects (List.Forall₂ fun entry other => Endpoint.ofEntry entry = Endpoint.ofEntry other)
      endpointEntries? := by
  intro doc other h
  refine rel_bind (Document.fields?_padsTo h _) fun known wide hknown => ?_
  exact hknown.read "endpoints" [] respects_endpointEntry?.list? .nil

end Listing

/-- Blanks put around the texts of a page change nothing of what is read, nor whether it is. -/
theorem readEndpoints_padsTo {body other : String} {doc padded : Document}
    (hbody : Document.parse? body = some doc) (hother : Document.parse? other = some padded)
    (h : doc.PadsTo padded) : readEndpoints other = readEndpoints body := by
  rw [readEndpoints, readEndpoints, Listing.page, Listing.page, hbody, hother, Option.bind_some,
    Option.bind_some]
  have hentries := Listing.respects_endpointEntries? doc padded h
  generalize Listing.endpointEntries? doc = entries at hentries
  generalize Listing.endpointEntries? padded = others at hentries
  cases hentries with
  | none => rfl
  | @some entries others hentries =>
    have hmap : entries.map Endpoint.ofEntry = others.map Endpoint.ofEntry := by
      rw [← List.forall₂_eq_eq_eq, List.forall₂_map_left_iff, List.forall₂_map_right_iff]
      exact hentries
    simp only [Except.map, Endpoint.ofEntries, hmap]

/-! ### What is read -/

/-- **The list of endpoints is canonical.** Names are distinct and no text has blanks around it. Of
the entries of the page those are kept, in their order, whose name did not occur before, and every
name that occurs is kept. With other blanks around its texts the page is read to the same. -/
theorem readEndpoints_canonical (body : String) (endpoints : List Endpoint)
    (h : readEndpoints body = .ok endpoints) :
    (endpoints.map Endpoint.name).Nodup ∧
    (∀ e ∈ endpoints,
      IsBare e.name ∧ IsBare e.type ∧ IsBare e.status ∧ ∀ url ∈ e.url, IsBare url) ∧
    ∃ doc entries, Document.parse? body = some doc ∧
      Listing.endpointEntries? doc = some entries ∧
      endpoints = (EndpointEntry.firstCalled entries).map Endpoint.ofEntry ∧
      (∀ entry ∈ entries, entry.called ∈ endpoints.map Endpoint.name) ∧
      ∀ (other : String) (padded : Document), doc.PadsTo padded →
        Document.parse? other = some padded → readEndpoints other = .ok endpoints := by
  obtain ⟨normal, distinct⟩ := readEndpoints_normal h
  refine ⟨distinct, fun e he => (normal e he).isBare, ?_⟩
  have hread := h
  rw [readEndpoints, Listing.page] at hread
  split at hread
  · next entries hentries =>
    obtain ⟨doc, hdoc, hentries⟩ := Option.bind_eq_some_iff.mp hentries
    cases hread
    exact ⟨doc, entries, hdoc, hentries, Endpoint.ofEntries_eq entries,
      fun entry => Endpoint.called_mem_ofEntries,
      fun other padded hpads hother => (readEndpoints_padsTo hdoc hother hpads).trans h⟩
  · cases hread

/-- A page with two entries of one name, the first of which is written with these pieces. -/
def twinPage (name : List Piece) : Document :=
  let key (name : String) : List Piece := name.toList.map .char
  .object [(key "endpoints", .array [.object [(key "name", .text name)],
    .object [(key "name", .text [.char 'a']), (key "type", .text (key "vllm"))]])]

/-- That page where its first name is bare. -/
def plainTwins : String :=
  "\x7b\"endpoints\":[\x7b\"name\":\"a\"\x7d,\x7b\"name\":\"a\",\"type\":\"vllm\"\x7d]\x7d"

/-- That page where its first name stands between blanks. -/
def wideTwins : String :=
  "\x7b\"endpoints\":[\x7b\"name\":\"\\u3000a \"\x7d,\x7b\"name\":\"a\",\"type\":\"vllm\"\x7d]\x7d"

theorem readEndpoints_canonical_twins :
    let endpoints : List Endpoint := [⟨"a", "unknown", none, "unknown", 0⟩]
    readEndpoints plainTwins = .ok endpoints ∧ readEndpoints wideTwins = .ok endpoints := by
  intro endpoints
  have hread : readEndpoints plainTwins = .ok endpoints := by decide +kernel
  obtain ⟨-, -, doc, -, hdoc, -, -, -, hpads⟩ :=
    readEndpoints_canonical plainTwins endpoints hread
  have hplain : Document.parse? plainTwins = some (twinPage [.char 'a']) := by cbv
  have hwide : Document.parse? wideTwins =
      some (twinPage [.unit 0x3000, .char 'a', .char ' ']) := by cbv
  obtain rfl := Option.some.inj (hdoc.symm.trans hplain)
  refine ⟨hread, hpads wideTwins _ ?_ hwide⟩
  have hpadded : Text.Padded "a" (String.ofList ['\u3000', 'a', ' ']) :=
    ⟨['\u3000'], [' '], List.forall_mem_singleton.mpr rfl, List.forall_mem_singleton.mpr rfl, rfl⟩
  have hname : (Document.text [.char 'a']).PadsTo (.text [.unit 0x3000, .char 'a', .char ' ']) :=
    .text rfl rfl hpadded
  refine .object rfl (.cons (.array (.cons ?_ (.cons (.refl _) .nil))) .nil)
  exact .object rfl (.cons hname .nil)

end GatewayProbe
