/-
Reading the gateway's lists.

The gateway shows its models on two pages of different form and is loose about keys. Each page is
first read as raw entries, all of whose texts may be blank or padded; the entries are then brought
into one form, in which no text is blank or padded and no endpoint has the name of an earlier one.

* `EndpointEntry`, `StatusEntry`, `UnifiedEntry` — the raw entries;
* `Endpoint.ofEntries`, `Model.ofStatus?`, `Model.ofUnified?` — their common form;
* `readEndpoints`, `readStatusPage`, `readUnifiedPage` — the pages.
-/
import GatewayProbe.Exchange.Fault
import GatewayProbe.Inventory.Basic
import GatewayProbe.Json.Record
import GatewayProbe.Text.Blank

namespace GatewayProbe

open Text (nonBlank?)

/-- An endpoint as it is listed. -/
structure EndpointEntry where
  name : String := ""
  type : String := ""
  url : Option String := none
  status : String := ""
  modelCount : Nat := 0
  deriving DecidableEq, Repr

/-- A model as the status page lists it. -/
structure StatusEntry where
  name : String := ""
  type : Option String := none
  endpoints : List String := []
  deriving DecidableEq, Repr

/-- A model as the unified page lists it. -/
structure UnifiedEntry where
  id : Option String := none
  name : Option String := none
  type : Option String := none
  /-- References with a state; the list is absent where the entry has no such part. -/
  availability : List ModelRef := []
  endpoints : List String := []
  deriving DecidableEq, Repr

namespace Listing

/-- Reads an entry of the list of endpoints. -/
def endpointEntry? (doc : Document) : Option EndpointEntry := do
  let fields ← doc.fields? ["name", "type", "url", "status", "model_count"]
  return {
    name := ← fields.read "name" "" Document.text?
    type := ← fields.read "type" "" Document.text?
    url := ← fields.read "url" none (Document.optional? Document.text?)
    status := ← fields.read "status" "" Document.text?
    modelCount := ← fields.read "model_count" 0 (Document.natural? Decimal.word32) }

/-- Reads the page of endpoints. -/
def endpointEntries? (doc : Document) : Option (List EndpointEntry) := do
  let fields ← doc.fields? ["endpoints"]
  fields.read "endpoints" [] (Document.list? endpointEntry?)

/-- Reads an entry of the status page. -/
def statusEntry? (doc : Document) : Option StatusEntry := do
  let fields ← doc.fields? ["name", "type", "endpoints"]
  return {
    name := ← fields.read "name" "" Document.text?
    type := ← fields.read "type" none (Document.optional? Document.text?)
    endpoints := ← fields.read "endpoints" [] (Document.list? Document.text?) }

/-- Reads the status page. -/
def statusEntries? (doc : Document) : Option (List StatusEntry) := do
  let fields ← doc.fields? ["recent_models"]
  fields.read "recent_models" [] (Document.list? statusEntry?)

/-- Reads a reference with a state. -/
def reference? (doc : Document) : Option ModelRef := do
  let fields ← doc.fields? ["endpoint", "state"]
  return {
    endpoint := ← fields.read "endpoint" "" Document.text?
    state := ← fields.read "state" none (Document.optional? Document.text?) }

/-- Reads the part of a unified entry that holds references with a state. -/
def availability? (doc : Document) : Option (List ModelRef) := do
  let fields ← doc.fields? ["availability"]
  fields.read "availability" [] (Document.list? reference?)

/-- Reads an entry of the unified page. -/
def unifiedEntry? (doc : Document) : Option UnifiedEntry := do
  let fields ← doc.fields? ["id", "name", "type", "olla", "endpoints"]
  return {
    id := ← fields.read "id" none (Document.optional? Document.text?)
    name := ← fields.read "name" none (Document.optional? Document.text?)
    type := ← fields.read "type" none (Document.optional? Document.text?)
    availability := (← fields.read "olla" none (Document.optional? availability?)).getD []
    endpoints := ← fields.read "endpoints" [] (Document.list? Document.text?) }

/-- Reads the list of a unified page under one key, which must be there. -/
def unifiedUnder? (key : String) (doc : Document) : Option (List UnifiedEntry) := do
  let fields ← doc.objectFields? [key]
  let items ← fields.lookup key
  items.list? unifiedEntry?

/-- Reads the unified page: its list stands under `data`, or else under `models`. The whole page
must be fit to be kept. -/
def unifiedEntries? (doc : Document) : Option (List UnifiedEntry) := do
  let _ ← doc.keep?
  unifiedUnder? "data" doc <|> unifiedUnder? "models" doc

end Listing

/-- The name of what has none. -/
def unknownName : String := "unknown"

/-- The endpoint of an entry. -/
def Endpoint.ofEntry (e : EndpointEntry) : Endpoint where
  name := (nonBlank? e.name).getD unknownName
  type := (nonBlank? e.type).getD unknownName
  url := e.url.bind nonBlank?
  status := (nonBlank? e.status).getD unknownName
  modelCount := e.modelCount

/-- Keeps the first endpoint of each name that is not among `seen`. -/
def Endpoint.firstOfName (seen : List String) : List Endpoint → List Endpoint
  | [] => []
  | e :: rest =>
    if seen.contains e.name then firstOfName seen rest
    else e :: firstOfName (e.name :: seen) rest

/-- The endpoints of a list of entries. -/
def Endpoint.ofEntries (entries : List EndpointEntry) : List Endpoint :=
  firstOfName [] (entries.map ofEntry)

/-- References by texts that are not blank. -/
def ModelRef.ofTexts (texts : List String) : List ModelRef :=
  (texts.filterMap nonBlank?).map fun endpoint => ⟨endpoint, none⟩

/-- A reference whose endpoint is not blank. -/
def ModelRef.normal? (r : ModelRef) : Option ModelRef :=
  (nonBlank? r.endpoint).map fun endpoint => ⟨endpoint, r.state.bind nonBlank?⟩

/-- The model of an entry of the status page, unless it has no name. -/
def Model.ofStatus? (e : StatusEntry) : Option Model :=
  (nonBlank? e.name).map fun id => ⟨id, ModelRef.ofTexts e.endpoints, e.type.bind nonBlank?⟩

/-- The model of an entry of the unified page, unless it has neither id nor name. -/
def Model.ofUnified? (e : UnifiedEntry) : Option Model :=
  (e.id.bind nonBlank? <|> e.name.bind nonBlank?).map fun id =>
    ⟨id, e.availability.filterMap ModelRef.normal? ++ ModelRef.ofTexts e.endpoints,
      e.type.bind nonBlank?⟩

namespace Listing

/-- Reads a page, or tells what was expected of it. -/
def page {α : Type} (expected : String) (entries? : Document → Option α) (body : String) :
    Except GatewayError α :=
  match (Document.parse? body).bind entries? with
  | some entries => .ok entries
  | none => .error (.invalidResponse expected)

end Listing

/-- The endpoints of the page of endpoints. -/
def readEndpoints (body : String) : Except GatewayError (List Endpoint) :=
  (Listing.page "not a list of endpoints" Listing.endpointEntries? body).map Endpoint.ofEntries

/-- The models of the status page. -/
def readStatusPage (body : String) : Except GatewayError (List Model) :=
  (Listing.page "not a list of models" Listing.statusEntries? body).map
    (·.filterMap Model.ofStatus?)

/-- The models of the unified page. -/
def readUnifiedPage (body : String) : Except GatewayError (List Model) :=
  (Listing.page "expected a `data` or `models` list: not there" Listing.unifiedEntries? body).map
    (·.filterMap Model.ofUnified?)

/-- The models of either page. -/
def parseModels : ListSource → String → Except GatewayError (List Model)
  | .status => readStatusPage
  | .unified => readUnifiedPage

end GatewayProbe
