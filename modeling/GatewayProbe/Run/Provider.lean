/-
Providers: families of backends with an interface of their own.

The gateway shows each family under a prefix and lists its models in a format of its own.

* `Provider` — the families and their names;
* `Provider.requests`, `Provider.storyRequest` — what is sent to each;
* `ProviderListing` — the models each family lists.
-/
import GatewayProbe.Events.Basic
import GatewayProbe.Run.Requests
import GatewayProbe.Text.Ascii

namespace GatewayProbe

/-- A family of backends. -/
inductive Provider where
  | openAi
  | ollama
  | lmStudio
  | vllm
  deriving DecidableEq, Repr

namespace Provider

/-- All families, in their order. -/
def all : List Provider := [.openAi, .ollama, .lmStudio, .vllm]

/-- The part of a route that names the family. -/
def routeName : Provider → String
  | .openAi => "openai"
  | .ollama => "ollama"
  | .lmStudio => "lm-studio"
  | .vllm => "vllm"

/-- The name of the format of the family, and of the family itself. -/
def name : Provider → String
  | .openAi => "openai"
  | .ollama => "ollama"
  | .lmStudio => "lmstudio"
  | .vllm => "vllm"

/-- The families by a name they are given on the command line. -/
def names : List (String × Provider) :=
  all.map (fun p => (p.name, p)) ++ [("lm-studio", .lmStudio)]

/-- The family of a name. -/
def ofName? (s : String) : Option Provider := names.lookup s

/-- The family of a name, up to the case of ASCII letters. -/
def ofNameIgnoringCase? (s : String) : Option Provider := names.lookup (Text.lowerAscii s)

/-- The routes under the family's prefix that list models. -/
def listRoutes : Provider → List String
  | .openAi | .vllm => ["/v1/models"]
  | .ollama => ["/api/tags", "/v1/models"]
  | .lmStudio => ["/v1/models", "/api/v0/models"]

end Provider

/-- A request to one family. -/
structure ProviderRequest where
  label : String
  /-- The route below the family's prefix. -/
  route : String
  body : Json

namespace Provider

/-- The prompt of requests for a stream. -/
def storyWish : String := "Tell me a story about a robot. Be creative and descriptive."

/-- A request for a short chat. -/
def chatBody (model : String) : Json :=
  .ofFields [("model", .text model), ("messages", .array [Body.user "Hello"]),
    ("max_tokens", .ofNat 10), ("stream", .bool false)]

/-- The requests for the embeddings of a text. -/
def embeddingRequest (route field model : String) : ProviderRequest :=
  ⟨"embeddings", route, .ofFields [("model", .text model), (field, .text "Test text")]⟩

/-- The requests for one model. A model for embeddings gets requests for those alone, where the
family has such a route. -/
def requests (p : Provider) (model : String) (embedding : Bool) : List ProviderRequest :=
  match p with
  | .openAi | .vllm =>
    if embedding then [embeddingRequest "/v1/embeddings" "input" model]
    else
      [⟨"chat", "/v1/chat/completions", chatBody model⟩,
       ⟨"completions", "/v1/completions",
        .ofFields [("model", .text model), ("prompt", .text "Hello"), ("max_tokens", .ofNat 10),
          ("stream", .bool false)]⟩]
  | .ollama =>
    if embedding then [embeddingRequest "/api/embeddings" "prompt" model]
    else
      [⟨"generate", "/api/generate",
        .ofFields [("model", .text model), ("prompt", .text "Hello"), ("stream", .bool false)]⟩,
       ⟨"chat", "/api/chat",
        .ofFields [("model", .text model), ("messages", .array [Body.user "Hello"]),
          ("stream", .bool false)]⟩]
  | .lmStudio =>
    [⟨"chat", "/v1/chat/completions", chatBody model⟩,
     ⟨"api-chat", "/api/v1/chat/completions", chatBody model⟩]

/-- The request for a streamed story, and the dialect of the answer. -/
def storyRequest (p : Provider) (model : String) : ProviderRequest × Dialect :=
  match p with
  | .ollama =>
    (⟨"stream", "/api/generate", .ofFields [("model", .text model), ("prompt", .text storyWish),
      ("stream", .bool true), ("options", .ofFields [("num_predict", .ofNat 100)])]⟩, .ollama)
  | .openAi | .lmStudio | .vllm =>
    (⟨"stream", "/v1/chat/completions", .ofFields [("model", .text model),
      ("messages", .array [Body.user storyWish]), ("stream", .bool true),
      ("max_tokens", .ofNat 100)]⟩, .openAi)

end Provider

/-- The models that families list. -/
abbrev ProviderListing (α : Type) := List (Provider × List α)

namespace ProviderListing

variable {α : Type}

/-- The models of a family; none where it was not asked. -/
def models (listing : ProviderListing α) (p : Provider) : List α := (listing.lookup p).getD []

/-- Sets the models of a family. -/
def insert (listing : ProviderListing α) (p : Provider) (models : List α) : ProviderListing α :=
  listing.filter (fun entry => entry.1 ≠ p) ++ [(p, models)]

/-- The families that were asked, in their order, with their models. -/
def sorted (listing : ProviderListing α) : ProviderListing α :=
  Provider.all.filterMap fun p => (listing.lookup p).map fun models => (p, models)

end ProviderListing
end GatewayProbe
