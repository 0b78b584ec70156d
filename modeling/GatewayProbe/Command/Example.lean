/-
The settings file that is written as a start for one's own.
-/

namespace GatewayProbe.Command

/-- A settings file in which every setting has its default. -/
def exampleSettings : String :=
  r#"# olla-probe configuration
#
# Precedence: CLI flags > OLLA_PROBE_* environment variables > this file > defaults.

[gateway]
# Gateway base URL
url = "http://localhost:40114"
# Total per-request budget in seconds, including reading a streamed body
timeout_seconds = 30
# TCP connect budget in seconds
connect_timeout_seconds = 5
# Budget for the initial reachability check
health_timeout_seconds = 5
# Static credential forwarded as x-api-key on Anthropic-style requests
api_key = "test-key"
anthropic_version = "2023-06-01"

[modes]
# Backend types that natively accept the Anthropic Messages API (expect X-Olla-Mode: passthrough)
passthrough_types = ["vllm", "vllm-mlx", "lm-studio", "ollama", "llamacpp", "lemonade"]
# Backend types the gateway must translate for (expect no passthrough header)
translation_types = ["openai-compatible", "litellm"]
# Types listed in neither set are reported and skipped.

[timing]
# Fewer content events than this is "single_chunk"
min_chunks = 3
# With more events than this, an average delay under many_chunks_max_avg_secs is "streaming"
many_chunks = 10
many_chunks_max_avg_secs = 0.5
# First content later than this is "standard" (buffered)
first_chunk_ceiling_secs = 5.0
# Any gap longer than this is "standard" (buffering stall)
max_gap_secs = 1.0
# Quality bands for latency reporting
batched_below_secs = 0.01
smooth_below_secs = 0.2
choppy_gap_secs = 1.0

[logging]
# trace, debug, info, warn, error
level = "warn"
# pretty or json
format = "pretty"

# [logging.component_levels]
# stream = "debug"
# reconciler = "debug"
"#

end GatewayProbe.Command
