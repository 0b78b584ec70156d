/-
The address of a gateway, without the slashes at its end.

The check of settings looks at the front of what is given for the address, and requests are sent to
what is left of it without the slashes at its end. These can be the slashes of the scheme:

* `Access.check_eq_ok_iff` — what is accepted, `Access.check_of_scheme` what a bare scheme is;
* `Access.address_of_slashes`, `Access.toList_address_append` — what is left of an address;
* `WebAddress.isSecure_iff` — whether requests are encrypted is told by the scheme;
* `address_accepted_iff` — what is left is accepted again, unless nothing but the scheme was given.
-/
import GatewayProbe.Proofs.Exchange.Reach
import GatewayProbe.Proofs.Settings.Checks
import GatewayProbe.Proofs.Text.Trimming

namespace GatewayProbe

open Text (dropEndWhile startsWith)

/-- The schemes of the addresses that are accepted. -/
def webSchemes : List String := ["http:", "https:"]

theorem mem_webSchemes_iff {scheme : String} :
    scheme ∈ webSchemes ↔ scheme = "http:" ∨ scheme = "https:" := by
  rw [webSchemes, List.mem_cons, List.mem_singleton]

theorem getLast?_scheme {scheme : String} (h : scheme ∈ webSchemes) :
    scheme.toList.getLast? ≠ some '/' := by
  rcases mem_webSchemes_iff.mp h with rfl | rfl <;> decide

/-! ### What is accepted -/

namespace Access

variable {a : Access} {scheme : String} {rest : List Char}

theorem startsWith_iff {url : String} :
    ¬(!startsWith url "http://" && !startsWith url "https://") = true ↔
      ∃ scheme ∈ webSchemes, (scheme ++ "//").toList <+: url.toList := by
  rw [← Bool.not_or, Bool.not_eq_true, Bool.not_eq_false', Bool.or_eq_true, startsWith,
    startsWith, List.isPrefixOf_iff_prefix, List.isPrefixOf_iff_prefix]
  simp [webSchemes]

/-- Where the address begins with a scheme and two slashes, the waits decide. -/
theorem check_of_front (h : ∃ scheme ∈ webSchemes, (scheme ++ "//").toList <+: a.url.toList) :
    a.check = if a.timeout = 0 then .error .noTimeout
      else if a.connectTimeout = 0 then .error .noConnectTimeout else .ok () := by
  have hfilled : ¬Text.isBlankText a.url = true := by
    obtain ⟨scheme, -, hprefix⟩ := h
    have hslash : '/' ∈ a.url.toList := by
      refine hprefix.subset ?_
      rw [String.toList_append]
      exact List.mem_append_right _ (by decide)
    exact fun hblank => nomatch List.all_eq_true.mp hblank _ hslash
  rw [check, if_neg hfilled, if_neg (startsWith_iff.mpr h)]

theorem check_eq_ok_iff : a.check = .ok () ↔
    (∃ scheme ∈ webSchemes, (scheme ++ "//").toList <+: a.url.toList) ∧ a.timeout ≠ 0 ∧
      a.connectTimeout ≠ 0 := by
  constructor
  · intro h
    rw [check] at h
    split_ifs at h with hblank hhttp htimeout hconnect
    exact ⟨startsWith_iff.mp hhttp, htimeout, hconnect⟩
  · rintro ⟨hscheme, htimeout, hconnect⟩
    rw [check_of_front hscheme, if_neg htimeout, if_neg hconnect]

/-- A scheme by itself is not accepted. -/
theorem check_of_scheme (h : a.url ∈ webSchemes) : a.check = .error (.notHttp a.url) := by
  rcases mem_webSchemes_iff.mp h with h | h <;>
    rw [check, h, if_neg (by decide), if_pos (by decide)]

/-! ### What is left of it -/

theorem toList_address (a : Access) : a.address.toList = dropEndWhile (· = '/') a.url.toList :=
  String.toList_ofList

theorem getLast?_address (a : Access) : a.address.toList.getLast? ≠ some '/' := by
  rw [toList_address]
  exact Text.getLast?_dropEndWhile_slash _

/-- The scheme is left in any case. -/
theorem scheme_prefix_address (hscheme : scheme ∈ webSchemes)
    (hurl : a.url.toList = (scheme ++ "//").toList ++ rest) :
    scheme.toList <+: a.address.toList := by
  have hprefix := Text.dropEndWhile_prefix_append (· = '/') scheme.toList ("//".toList ++ rest)
  rw [Text.dropEndWhile_slash_eq_self_iff.mpr (getLast?_scheme hscheme)] at hprefix
  rwa [toList_address, hurl, String.toList_append, List.append_assoc]

/-- Where only slashes come after the scheme, the scheme loses its own. -/
theorem address_of_slashes (hscheme : scheme ∈ webSchemes)
    (hurl : a.url.toList = (scheme ++ "//").toList ++ rest) (hrest : ∀ c ∈ rest, c = '/') :
    a.address = scheme := by
  have hslashes : (scheme ++ "//").toList ++ rest =
      scheme.toList ++ List.replicate (rest.length + 2) '/' := by
    rw [String.toList_append, List.append_assoc, List.eq_replicate_of_mem hrest,
      List.length_replicate]
    rfl
  rw [address, hurl, hslashes, Text.dropEndWhile_slashes,
    Text.dropEndWhile_slash_eq_self_iff.mpr (getLast?_scheme hscheme), String.ofList_toList]

/-- Where something else comes after the scheme, some of it is left. -/
theorem toList_address_append (hurl : a.url.toList = (scheme ++ "//").toList ++ rest)
    (hrest : ∃ c ∈ rest, c ≠ '/') :
    ∃ c more, a.address.toList = (scheme ++ "//").toList ++ c :: more := by
  have hne : dropEndWhile (· = '/') rest ≠ [] := by
    rw [Text.dropEndWhile_eq, Ne, List.rdropWhile_eq_nil_iff]
    push Not
    simpa using hrest
  obtain ⟨c, more, hmore⟩ := List.exists_cons_of_ne_nil hne
  refine ⟨c, more, ?_⟩
  rw [toList_address, hurl, Text.dropEndWhile_append_eq, if_neg hne, hmore]

end Access

/-! ### Where requests are sent -/

namespace WebAddress

/-- Visible characters at the front of an address are kept. -/
theorem prefix_bare_append {front : List Char} (hfront : front.all isVisible = true)
    (cs : List Char) : front <+: bare (front ++ cs) := by
  have hkept : ∀ c ∈ front, decide (c.toNat ≤ 0x20) = false := fun c hc => by
    simpa using visible_of_mem hfront hc
  cases front with
  | nil => exact List.nil_prefix
  | cons c front =>
    have hstart : (c :: front ++ cs).dropWhile (·.toNat ≤ 0x20) = c :: front ++ cs := by
      refine Text.dropWhile_eq_self_iff.mpr fun d hd => hkept d ?_
      exact Option.some.inj hd ▸ List.mem_cons_self
    have hback : dropEndWhile (·.toNat ≤ 0x20) (c :: front) = c :: front :=
      Text.dropEndWhile_eq_self_iff.mpr fun d hd => hkept d (List.mem_of_mem_getLast? hd)
    obtain ⟨rest, hrest⟩ := Text.dropEndWhile_prefix_append (·.toNat ≤ 0x20) (c :: front) cs
    rw [bare, hstart, ← hrest, hback, unbroken, List.filter_append]
    exact ⟨_, congrArg (· ++ _) (unbroken_plain hfront).symm⟩

theorem afterScheme?_of_parse? {url : String} {a : WebAddress} (h : parse? url = some a) :
    ∃ rest, Target.afterScheme? (bare url.toList) = some (a.isSecure, rest) := by
  rw [parse?] at h
  change Option.bind (Target.afterScheme? (bare url.toList)) _ = some a at h
  obtain ⟨⟨isSecure, rest⟩, hscheme, h⟩ := Option.bind_eq_some_iff.mp h
  refine ⟨rest, hscheme.trans ?_⟩
  dsimp only at h
  split at h
  · cases h
  · cases h
    rfl

theorem afterScheme?_of_mem {scheme : String} (h : scheme ∈ webSchemes) (cs : List Char) :
    Target.afterScheme? (scheme.toList ++ cs) = some (decide (scheme = "https:"), cs) := by
  have hself (word : String) : Text.eqIgnoreCase
      (String.ofList ((word.toList ++ cs).take word.length)) word = true := by
    rw [← String.length_toList, List.take_left, String.ofList_toList, Text.eqIgnoreCase_iff]
  have hrest (word : String) : (word.toList ++ cs).drop word.length = cs := by
    rw [← String.length_toList, List.drop_left]
  rw [Target.afterScheme?]
  dsimp only
  rcases mem_webSchemes_iff.mp h with rfl | rfl
  · rw [if_pos (hself _), hrest]
    rfl
  -- The shorter scheme is tried first, and the longer one does not begin with it.
  · have hplain : ¬Text.eqIgnoreCase
        (String.ofList (("https:".toList ++ cs).take "http:".length)) "http:" = true := by
      rw [List.take_append_of_le_length (by decide)]
      decide
    rw [if_neg hplain, if_pos (hself _), hrest]
    rfl

/-- An address is secure if its scheme is, whatever comes after. -/
theorem isSecure_iff {scheme url : String} (hscheme : scheme ∈ webSchemes)
    (hurl : scheme.toList <+: url.toList) {a : WebAddress} (h : parse? url = some a) :
    a.isSecure = true ↔ scheme = "https:" := by
  obtain ⟨cs, hcs⟩ := hurl
  have hvisible : scheme.toList.all isVisible = true := by
    rcases mem_webSchemes_iff.mp hscheme with rfl | rfl <;> decide
  obtain ⟨rest, hbare⟩ := prefix_bare_append hvisible cs
  obtain ⟨_, hafter⟩ := afterScheme?_of_parse? h
  rw [← hcs, ← hbare, afterScheme?_of_mem hscheme] at hafter
  obtain ⟨hsecure, -⟩ := Prod.mk.inj (Option.some.inj hafter)
  rw [← hsecure, decide_eq_true_eq]

end WebAddress

/-- The settings with the address in the place of what was given for it. -/
def Settings.stripped (s : Settings) : Settings :=
  { s with access := { s.access with url := s.access.address } }

/-- **Addresses without slashes at their ends.** Let the address of settings pass its check, as that
of valid settings does, so that it is a scheme, two slashes and a rest. What is left of it ends with
no slash, and taking slashes off again changes nothing. If the rest has anything but slashes, what
is left begins as what was given and goes on after that, the settings are as valid with it as they
were, and every address of a request begins that way too. Otherwise the scheme alone is left, which
is not accepted. In both cases requests are encrypted or not as the scheme says. -/
theorem address_accepted_iff (s : Settings) (h : s.access.check = .ok ()) :
    ∃ scheme ∈ webSchemes, ∃ rest, s.access.url.toList = (scheme ++ "//").toList ++ rest ∧
      s.access.address.toList.getLast? ≠ some '/' ∧
      s.stripped.access.address = s.access.address ∧
      ((∃ c ∈ rest, c ≠ '/') →
        (∃ c more, s.access.address.toList = (scheme ++ "//").toList ++ c :: more) ∧
        s.stripped.check = s.check ∧
        ∀ path, (scheme ++ "//").toList <+: (s.access.address ++ path).toList) ∧
      ((∀ c ∈ rest, c = '/') →
        s.access.address = scheme ∧ s.stripped.check = .error (.notHttp scheme)) ∧
      ∀ path a, WebAddress.parse? (s.access.address ++ path) = some a →
        (a.isSecure = true ↔ scheme = "https:") := by
  obtain ⟨⟨scheme, hscheme, rest, hurl⟩, htimeout, hconnect⟩ := Access.check_eq_ok_iff.mp h
  have hstill : s.stripped.access.address = s.access.address := by
    rw [Access.address, Settings.stripped, Text.dropEndWhile_slash_eq_self_iff.mpr
      s.access.getLast?_address, String.ofList_toList]
  refine ⟨scheme, hscheme, rest, hurl.symm, s.access.getLast?_address, hstill,
    fun hrest => ?_, fun hrest => ?_, fun path a ha => ?_⟩
  -- The slashes of the scheme are kept by what comes after them, and go where nothing does.
  · obtain ⟨c, more, haddress⟩ := Access.toList_address_append hurl.symm hrest
    have hprefix : (scheme ++ "//").toList <+: s.access.address.toList := ⟨_, haddress.symm⟩
    have hcheck : s.stripped.access.check = .ok () :=
      Access.check_eq_ok_iff.mpr ⟨⟨scheme, hscheme, hprefix⟩, htimeout, hconnect⟩
    refine ⟨⟨c, more, haddress⟩, ?_, fun path => ?_⟩
    · rw [Settings.check, Settings.check, h, hcheck]
      rfl
    · rw [String.toList_append (s := s.access.address)]
      exact hprefix.trans (List.prefix_append _ _)
  · have hbare : s.access.address = scheme := Access.address_of_slashes hscheme hurl.symm hrest
    have hurl' : s.stripped.access.url = scheme := hbare
    have hcheck : s.stripped.access.check = .error (.notHttp scheme) := by
      rw [Access.check_of_scheme (hurl' ▸ hscheme), hurl']
    refine ⟨hbare, ?_⟩
    rw [Settings.check, hcheck]
    rfl
  · refine WebAddress.isSecure_iff hscheme ?_ ha
    rw [String.toList_append]
    exact (Access.scheme_prefix_address hscheme hurl.symm).trans (List.prefix_append _ _)

/-- Settings with slashes at the end of a secure address. -/
def slashedSettings : Settings := { access := { url := "https://h:1//" } }

theorem address_accepted_iff_slashed :
    slashedSettings.access.check = .ok () ∧
    (∃ c more, slashedSettings.access.address.toList = "https://".toList ++ c :: more) ∧
    slashedSettings.stripped.check = slashedSettings.check := by
  have hcheck : slashedSettings.access.check = .ok () := by decide
  obtain ⟨scheme, hscheme, rest, hurl, -, -, hfilled, -⟩ := address_accepted_iff _ hcheck
  have hsecure : scheme = "https:" ∧ rest = ['h', ':', '1', '/', '/'] := by
    rcases mem_webSchemes_iff.mp hscheme with rfl | rfl
    · simp [slashedSettings] at hurl
    · simpa [slashedSettings] using hurl.symm
  obtain ⟨rfl, rfl⟩ := hsecure
  obtain ⟨hstarts, hstill, -⟩ := hfilled ⟨'h', by decide, by decide⟩
  exact ⟨hcheck, hstarts, hstill⟩

/-- A scheme with its two slashes is accepted wherever the usual address is, but the scheme alone is
left of it, which is not. The first step of a route is then taken for the host. -/
theorem address_bareScheme :
    (∀ s : Settings, ({ s with access := { s.access with url := "http://" } } : Settings).check =
      ({ s with access := { s.access with url := "http://localhost:40114" } } : Settings).check) ∧
    Access.check { url := "http://" } = .ok () ∧
    Access.address { url := "http://" } = "http:" ∧
    ¬"http://".toList <+: (Access.address { url := "http://" }).toList ∧
    Access.check { url := "http:" } = .error (.notHttp "http:") ∧
    (WebAddress.parse? (Access.address { url := "http://" } ++ Route.health)).map
      (fun a => (a.host, a.target)) = some ("internal", "/health") := by
  refine ⟨fun s => ?_, by decide +kernel⟩
  -- Both addresses pass, so all other settings decide.
  have hplain : "http:" ∈ webSchemes := by decide
  have hbare : ("http:" ++ "//").toList <+: "http://".toList := by decide
  have husual : ("http:" ++ "//").toList <+: "http://localhost:40114".toList := by decide
  rw [Settings.check, Settings.check, Access.check_of_front ⟨_, hplain, hbare⟩,
    Access.check_of_front ⟨_, hplain, husual⟩]

end GatewayProbe
