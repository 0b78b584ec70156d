/-
The gateway's own counts of what it translated.

The gateway counts requests for each translator. After a run these counts are compared with what the
run saw; they may be higher, because others use the gateway too, but not zero. Counts are added in
64 bits, and a sum that does not fit aborts the program, so what needs one may have no result.

* `Counters`, `CounterPage` — the counts of one translator, and the page of all;
* `Counters.fallbacks?` — the fallbacks of a translator, added up;
* `CounterPage.parse?` — the page as a text writes it;
* `Finding.ofCounters?` — the comparison.
-/
import GatewayProbe.Conformance.Finding
import GatewayProbe.Decimal.Fixed
import GatewayProbe.Json.Record
import GatewayProbe.Text.Ascii

namespace GatewayProbe

/-- A rate, as a number or as a text. -/
inductive Rate where
  | number (value : Float)
  | text (written : String)

/-- A rate as it is shown: a number has two places. -/
def Rate.shown : Rate → String
  | .number value => Decimal.fixed 2 value
  | .text written => written

/-- The counts of one translator, each of 64 bits. -/
structure Counters where
  translator : String := ""
  total : Nat := 0
  passthrough : Nat := 0
  translated : Nat := 0
  passthroughRate : Option Rate := none
  streaming : Nat := 0
  nonStreaming : Nat := 0
  noCompatible : Nat := 0
  noSupport : Nat := 0
  cannotPass : Nat := 0

/-- The sum of two counts, if it fits 64 bits. -/
def add64? (n m : Nat) : Option Nat := if n + m < Decimal.word64 then some (n + m) else none

/-- The requests that could not be passed on unchanged, if they can be added up. -/
def Counters.fallbacks? (c : Counters) : Option Nat := do
  add64? (← add64? c.noCompatible c.noSupport) c.cannotPass

/-- The page of all translators. -/
structure CounterPage where
  translators : List Counters := []
  passthroughRate : Option Rate := none
  overallSuccess : Option Rate := none

/-- The first translator for Anthropic messages, by its name. -/
def CounterPage.anthropic? (p : CounterPage) : Option Counters :=
  p.translators.find? fun c => Text.contains (Text.lowerAscii c.translator) "anthropic"

namespace CounterPage

/-- A number as a double. -/
def floatOf : Number → Float
  | .whole n => Float.ofInt n
  | .double x => x

/-- Reads a rate. -/
def rate? : Document → Option Rate
  | .number numeral => numeral.number?.map fun n => .number (floatOf n)
  | .text pieces => (Document.textOf? pieces).map .text
  | _ => none

/-- Reads the counts of one translator. -/
def counters? (doc : Document) : Option Counters := do
  let fields ← doc.fields? ["translator_name", "total_requests", "passthrough_requests",
    "translation_requests", "passthrough_rate", "streaming_requests", "non_streaming_requests",
    "fallback_no_compatible_endpoints", "fallback_translator_does_not_support_passthrough",
    "fallback_cannot_passthrough"]
  let count (name : String) : Option Nat := fields.read name 0 (Document.natural? Decimal.word64)
  return {
    translator := ← fields.read "translator_name" "" Document.text?
    total := ← count "total_requests"
    passthrough := ← count "passthrough_requests"
    translated := ← count "translation_requests"
    passthroughRate := ← fields.read "passthrough_rate" none (Document.optional? rate?)
    streaming := ← count "streaming_requests"
    nonStreaming := ← count "non_streaming_requests"
    noCompatible := ← count "fallback_no_compatible_endpoints"
    noSupport := ← count "fallback_translator_does_not_support_passthrough"
    cannotPass := ← count "fallback_cannot_passthrough" }

/-- Reads the two rates of the summary. -/
def summary? (doc : Document) : Option (Option Rate × Option Rate) := do
  let fields ← doc.fields? ["overall_passthrough_rate", "overall_success_rate"]
  return (← fields.read "overall_passthrough_rate" none (Document.optional? rate?),
    ← fields.read "overall_success_rate" none (Document.optional? rate?))

/-- Reads the page from a document. -/
def ofDocument? (doc : Document) : Option CounterPage := do
  let fields ← doc.fields? ["translators", "summary"]
  let translators ← fields.read "translators" [] (Document.list? counters?)
  let (passthroughRate, overallSuccess) ← fields.read "summary" (none, none) summary?
  return { translators, passthroughRate, overallSuccess }

/-- Reads the page. -/
def parse? (body : String) : Option CounterPage := (Document.parse? body).bind ofDocument?

end CounterPage

/-- Compares the counts of one translator with what a run saw. -/
def Counters.compare (c : Counters) (sawPassthrough sawTranslated : Bool) : Finding :=
  ((Finding.pass.failIf ((sawPassthrough || sawTranslated) && c.total = 0)
    "total_requests is 0 after requests were sent").failIf
      (sawPassthrough && c.passthrough = 0)
      "passthrough_requests is 0 but passthrough responses were observed").failIf
        (sawTranslated && c.translated = 0)
        "translation_requests is 0 but translated responses were observed"

/-- What is noted of fallbacks. -/
def Counters.fallbackNote (c : Counters) : String :=
  s!"fallbacks: no_compatible={c.noCompatible} no_support={c.noSupport}" ++
    s!" cannot={c.cannotPass}"

/-- Compares the counts with what a run saw, if the fallbacks can be added up. -/
def Finding.ofCounters? (page : CounterPage) (sawPassthrough sawTranslated : Bool) :
    Option Finding :=
  match page.anthropic? with
  | none => some <|
    if sawPassthrough || sawTranslated then .fail "no anthropic translator in stats"
    else .skip "no translator stats available yet"
  | some c => c.fallbacks?.map fun fallbacks =>
    (c.compare sawPassthrough sawTranslated).noteIf (fallbacks > 0) c.fallbackNote

end GatewayProbe
