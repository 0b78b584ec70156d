/-
The bodies of the requests that runs send.

* `Body.message` — a request for a message;
* `Body.chat`, `Body.generate` — requests in the two other forms.
-/
import GatewayProbe.Json.Basic

namespace GatewayProbe.Body

/-- The prompt of checks that need some answer. -/
def greetingPrompt : String := "Say hello briefly"

/-- A turn of a conversation. -/
def turn (role content : String) : Json :=
  .ofFields [("role", .text role), ("content", .text content)]

/-- A turn of the user. -/
def user (content : String) : Json := turn "user" content

/-- A request for a message. A few tokens are enough. -/
def message (model : String) (stream : Bool) (system : Option String)
    (messages : Option (List Json)) : Json :=
  .ofFields ([("model", .text model),
    ("messages", .array (messages.getD [user greetingPrompt])),
    ("max_tokens", .ofNat 10)] ++
    (if stream then [("stream", .bool true)] else []) ++
    (system.map fun text => ("system", Json.text text)).toList)

/-- A request for a chat completion. -/
def chat (model prompt : String) (stream : Bool) : Json :=
  .ofFields [("model", .text model), ("messages", .array [user prompt]), ("stream", .bool stream)]

/-- A request for a chat completion of a few tokens. -/
def shortChat (model prompt : String) (maxTokens : Nat) : Json :=
  (chat model prompt false).set "max_tokens" (.ofNat maxTokens)

/-- A request for generated text, streamed. -/
def generate (model prompt : String) : Json :=
  .ofFields [("model", .text model), ("prompt", .text prompt), ("stream", .bool true)]

end GatewayProbe.Body
