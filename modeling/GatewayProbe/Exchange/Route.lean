/-
The routes of a gateway that a run depends on, below its base address.
-/

namespace GatewayProbe.Route

def health : String := "/internal/health"
def status : String := "/internal/status"
def endpointList : String := "/internal/status/endpoints"
def recentModels : String := "/internal/status/models"
def modelCounts : String := "/internal/stats/models"
def counters : String := "/internal/stats/translators"
def process : String := "/internal/process"
def version : String := "/version"
def modelList : String := "/olla/models"
def messageModels : String := "/olla/anthropic/v1/models"
def messages : String := "/olla/anthropic/v1/messages"
def tokenCount : String := "/olla/anthropic/v1/messages/count_tokens"
def chat : String := "/olla/openai/v1/chat/completions"
def sharedModels : String := "/olla/proxy/v1/models"
def sharedChat : String := "/olla/proxy/v1/chat/completions"
def generate : String := "/olla/ollama/api/generate"

/-- The route of one provider's interface. -/
def under (family rest : String) : String := "/olla/" ++ family ++ rest

/-- The list of all models in the format of one provider. -/
def modelListAs (format : String) : String := modelList ++ "?format=" ++ format

/-- One model by its id. -/
def modelPage (id : String) : String := modelList ++ "/" ++ id

end GatewayProbe.Route
