/-
The settings of a run, and when they are valid.

* `Access`, `Settings` — where the gateway is and how it is judged;
* `Access.address` — the gateway's address without slashes at its end;
* `Settings.check` — the settings are valid;
* `SettingsError` — why there are no settings, and the wording of each reason.
-/
import GatewayProbe.Folder
import GatewayProbe.Settings.Log
import GatewayProbe.Settings.ModeTables
import GatewayProbe.Settings.Thresholds

namespace GatewayProbe

/-- Where the gateway is, and what is sent to it with each request. Times are in seconds. -/
structure Access where
  url : String := "http://localhost:40114"
  timeout : Nat := 30
  connectTimeout : Nat := 5
  healthTimeout : Nat := 5
  apiKey : String := "test-key"
  anthropicVersion : String := "2023-06-01"
  deriving DecidableEq, Repr

/-- The address without slashes at its end. -/
def Access.address (a : Access) : String :=
  String.ofList (Text.dropEndWhile (· = '/') a.url.toList)

/-- The settings of a run. -/
structure Settings where
  access : Access := {}
  modes : ModeTables := .standard
  timing : Thresholds := {}
  logging : Logging := {}

/-- What is wrong with settings. -/
inductive SettingsFault where
  | emptyUrl
  | notHttp (url : String)
  | noTimeout
  | noConnectTimeout
  | modes (fault : ModeFault)
  | timing (fault : ThresholdFault)
  deriving DecidableEq, Repr

namespace SettingsFault

/-- The name of the setting that is wrong. -/
def field : SettingsFault → String
  | .emptyUrl | .notHttp _ => "gateway.url"
  | .noTimeout => "gateway.timeout_seconds"
  | .noConnectTimeout => "gateway.connect_timeout_seconds"
  | .modes (.blankPassthrough i) => s!"modes.passthrough_types[{i}]"
  | .modes (.blankTranslated i) => s!"modes.translation_types[{i}]"
  | .modes (.overlap _) => "modes"
  | .timing .fewChunks => "timing.min_chunks"
  | .timing .manyBelowMin => "timing.many_chunks"
  | .timing (.notPositive name) => "timing." ++ name
  | .timing .emptyBand => "timing.batched_below_secs"

/-- What is asked of the setting. -/
def reason : SettingsFault → String
  | .emptyUrl => "URL cannot be empty"
  | .notHttp url => "expected an http(s) URL, got '" ++ url ++ "'"
  | .noTimeout | .noConnectTimeout => "timeout must be non-zero"
  | .modes (.blankPassthrough _) | .modes (.blankTranslated _) => "type cannot be empty"
  | .modes (.overlap types) =>
    "backend types listed as both passthrough and translation: " ++ ", ".intercalate types
  | .timing .fewChunks => "at least two events are needed to measure a delay"
  | .timing .manyBelowMin => "must be >= min_chunks"
  | .timing (.notPositive _) => "must be a positive number of seconds"
  | .timing .emptyBand => "must be smaller than smooth_below_secs"

end SettingsFault

/-- Why there are no settings. -/
inductive SettingsError where
  /-- The file cannot be read. -/
  | unreadable (fault : FileFault)
  | missing (path : String)
  /-- The file is no TOML document, or a setting in it has the wrong type. -/
  | malformed
  | invalid (fault : SettingsFault)
  deriving DecidableEq, Repr

/-- The wording of an error. -/
def SettingsError.message : SettingsError → String
  | .unreadable fault => "cannot read config file: " ++ fault.message
  | .missing path => "config file " ++ path ++ " does not exist"
  | .malformed => "malformed config file: expected a TOML document of settings"
  | .invalid fault => "invalid value for '" ++ fault.field ++ "': " ++ fault.reason

/-- Accepts an address that starts as a web address does, and waits that are not zero. -/
def Access.check (a : Access) : Except SettingsFault Unit :=
  if Text.isBlankText a.url then .error .emptyUrl
  else if !Text.startsWith a.url "http://" && !Text.startsWith a.url "https://" then
    .error (.notHttp a.url)
  else if a.timeout = 0 then .error .noTimeout
  else if a.connectTimeout = 0 then .error .noConnectTimeout
  else .ok ()

/-- Accepts settings all parts of which are valid. -/
def Settings.check (s : Settings) : Except SettingsFault Unit := do
  s.access.check
  s.modes.check.mapError .modes
  s.timing.check.mapError .timing

end GatewayProbe
